import FsGateway.Proofs.Json.Grammar
import Mathlib.Data.List.Perm.Basic

/-!
# Members under one name

The names of members are compared by the characters that they spell. A name may stand once among the
members of an object, not at all, or several times.

* `Node.WellFormed`: nodes that some text is written for, and what their parts are.
* `Node.Sole`, `Node.Absent`: one member has the name, or none.
-/

namespace FsGateway.Json.Node

variable {n k : Node} {ms ms' : List (Bytes × Node)} {closed : Bool} {name : String}
  {raw lexeme b : Bytes} {m : Bytes × Node}

/-! ## Nodes of the grammar -/

/-- Some text is written for a node. -/
def WellFormed (n : Node) : Prop := ∃ t, WrittenAs n t

/-- The name of a member is a string, and its value a node of the grammar. -/
structure MemberWellFormed (m : Bytes × Node) : Prop where
  name : Text.RawForm m.1
  value : m.2.WellFormed

theorem DocumentOf.wellFormed (h : DocumentOf n b) : n.WellFormed := by
  obtain ⟨-, hwritten, -⟩ := h
  exact ⟨_, hwritten⟩

theorem NameOf.rawForm {a : Bytes} (h : NameOf raw a) : Text.RawForm raw := by
  obtain ⟨-, hraw, -⟩ := h
  exact hraw

theorem ItemsWrittenAs.wellFormed {items : List Node} {t : Bytes} :
    ItemsWrittenAs items t → ∀ n ∈ items, n.WellFormed
  | .last hn => List.forall_mem_singleton.mpr hn.wellFormed
  | .more hn hns => List.forall_mem_cons.mpr ⟨hn.wellFormed, hns.wellFormed⟩

theorem MembersWrittenAs.wellFormed {members : List (Bytes × Node)} {t : Bytes} :
    MembersWrittenAs members t → ∀ m ∈ members, MemberWellFormed m
  | .last hname hn => List.forall_mem_singleton.mpr ⟨hname.rawForm, hn.wellFormed⟩
  | .more hname hn hms => List.forall_mem_cons.mpr ⟨⟨hname.rawForm, hn.wellFormed⟩, hms.wellFormed⟩

theorem WellFormed.numeral (h : (number lexeme).WellFormed) : Numeral lexeme := by
  obtain ⟨_, hnumeral⟩ := h
  cases hnumeral
  assumption

theorem WellFormed.rawForm (h : (string raw).WellFormed) : Text.RawForm raw := by
  obtain ⟨_, hraw⟩ := h
  cases hraw
  assumption

theorem WellFormed.items {items : List Node} (h : (array items closed).WellFormed) :
    closed = true ∧ ∀ n ∈ items, n.WellFormed := by
  obtain ⟨_, hwritten⟩ := h
  cases hwritten with
  | emptyArray => exact ⟨rfl, List.forall_mem_nil _⟩
  | array hitems => exact ⟨rfl, hitems.wellFormed⟩

theorem WellFormed.members (h : (object ms closed).WellFormed) :
    closed = true ∧ ∀ m ∈ ms, MemberWellFormed m := by
  obtain ⟨_, hwritten⟩ := h
  cases hwritten with
  | emptyObject => exact ⟨rfl, List.forall_mem_nil _⟩
  | object hmembers => exact ⟨rfl, hmembers.wellFormed⟩

mutual

theorem WrittenAs.isWhole {n : Node} {t : Bytes} : WrittenAs n t → n.isWhole = true
  | .null | .bool _ | .number _ | .string _ | .emptyArray _ | .emptyObject _ => rfl
  | .array hitems => hitems.allWhole
  | .object hmembers => hmembers.membersWhole

theorem DocumentOf.isWhole {n : Node} {b : Bytes} : DocumentOf n b → n.isWhole = true
  | .mk _ hwritten _ => hwritten.isWhole

theorem ItemsWrittenAs.allWhole {items : List Node} {t : Bytes} :
    ItemsWrittenAs items t → allWhole items = true
  | .last hn => (Bool.and_eq_true _ _).mpr ⟨hn.isWhole, rfl⟩
  | .more hn hns => (Bool.and_eq_true _ _).mpr ⟨hn.isWhole, hns.allWhole⟩

theorem MembersWrittenAs.membersWhole {members : List (Bytes × Node)} {t : Bytes} :
    MembersWrittenAs members t → membersWhole members = true
  | .last _ hn => (Bool.and_eq_true _ _).mpr ⟨hn.isWhole, rfl⟩
  | .more _ hn hms => (Bool.and_eq_true _ _).mpr ⟨hn.isWhole, hms.membersWhole⟩

end

/-- No part of a node of the grammar is missing. -/
theorem WellFormed.isWhole (h : n.WellFormed) : n.isWhole = true := by
  obtain ⟨_, hwritten⟩ := h
  exact hwritten.isWhole

/-! ## Names -/

/-- A member has a name. -/
def IsNamed (name : String) (m : Bytes × Node) : Prop := Text.Spells m.1 name.toList

theorem MemberWellFormed.value?_eq_some_iff (h : MemberWellFormed m) :
    Text.value? m.1 = some name ↔ IsNamed name m :=
  Text.value?_eq_some_iff h.name

theorem IsNamed.eq {name' : String} (h : IsNamed name m) (h' : IsNamed name' m) : name = name' := by
  have hraw := h.rawForm
  exact Option.some.inj (((Text.value?_eq_some_iff hraw).mpr h).symm.trans
    ((Text.value?_eq_some_iff hraw).mpr h'))

/-- No member has the name. -/
def Absent (name : String) (ms : List (Bytes × Node)) : Prop := ∀ m ∈ ms, ¬ IsNamed name m

/-- Exactly one member has the name, and this is its value. -/
def Sole (name : String) (n : Node) (ms : List (Bytes × Node)) : Prop :=
  ∃ raw others, ms.Perm ((raw, n) :: others) ∧ IsNamed name (raw, n) ∧ Absent name others

theorem absent_cons : Absent name (m :: ms) ↔ ¬ IsNamed name m ∧ Absent name ms :=
  List.forall_mem_cons

theorem Absent.perm (h : Absent name ms) (hperm : ms.Perm ms') : Absent name ms' :=
  fun m hm => h m (hperm.mem_iff.mpr hm)

theorem Sole.perm (h : Sole name n ms) (hperm : ms.Perm ms') : Sole name n ms' := by
  obtain ⟨raw, others, hms, hname, habsent⟩ := h
  exact ⟨raw, others, hperm.symm.trans hms, hname, habsent⟩

theorem not_sole_nil : ¬ Sole name n [] := by
  rintro ⟨raw, others, hperm, -, -⟩
  cases hperm.nil_eq

theorem Sole.wellFormed (h : Sole name n ms) (hms : ∀ m ∈ ms, MemberWellFormed m) :
    n.WellFormed := by
  obtain ⟨raw, others, hperm, -, -⟩ := h
  exact (hms _ (hperm.mem_iff.mpr List.mem_cons_self)).value

/-- A member that has the name is the one, if no member after it has the name. -/
theorem sole_cons_of_named (h : IsNamed name m) :
    Sole name n (m :: ms) ↔ m.2 = n ∧ Absent name ms := by
  constructor
  · rintro ⟨raw, others, hperm, -, habsent⟩
    rcases List.mem_cons.mp (hperm.mem_iff.mp List.mem_cons_self) with rfl | hm
    · exact ⟨rfl, habsent.perm hperm.cons_inv.symm⟩
    · exact absurd h (habsent m hm)
  · rintro ⟨rfl, habsent⟩
    exact ⟨m.1, ms, .refl _, h, habsent⟩

/-- A member that does not have the name changes nothing. -/
theorem sole_cons_of_not_named (h : ¬ IsNamed name m) : Sole name n (m :: ms) ↔ Sole name n ms := by
  constructor
  · rintro ⟨raw, others, hperm, hname, habsent⟩
    rcases List.mem_cons.mp (hperm.mem_iff.mp List.mem_cons_self) with rfl | hm
    · exact absurd hname h
    · obtain ⟨before, after, rfl⟩ := List.append_of_mem hm
      have hothers : (before ++ m :: after).Perm (m :: (before ++ after)) := List.perm_middle
      have hperm' := hperm.trans ((hothers.cons (raw, n)).trans (.swap m (raw, n) _))
      exact ⟨raw, before ++ after, hperm'.cons_inv, hname, (absent_cons.mp (habsent.perm hothers)).2⟩
  · rintro ⟨raw, others, hperm, hname, habsent⟩
    exact ⟨raw, m :: others, (hperm.cons m).trans (.swap (raw, n) m others), hname,
      absent_cons.mpr ⟨h, habsent⟩⟩

theorem Sole.eq (h : Sole name n ms) (h' : Sole name k ms) : n = k := by
  obtain ⟨raw, others, hperm, hname, -⟩ := h
  exact ((sole_cons_of_named hname).mp (h'.perm hperm)).1

end FsGateway.Json.Node
