import FsGateway.Proofs.Wire.Layout
import FsGateway.Proofs.Wire.RoundTrip
import Mathlib.Data.List.Forall2
import Mathlib.Data.List.Nodup

/-!
# Which lists of entries make a registry

A registry is made from entries in any order in which every operation occurs once and every record has
a layout. The fault of another list is that of the first entry that an earlier one or a record of its
own speaks against; where there is none, it is the first operation that does not occur.

* `Offends`: what is wrong with an entry after others.
* `ofEntries_eq_ok_iff`: the registry of a list.
* `ofEntries_outcome`: the lists that make a registry, what it holds, and the faults of the others.
-/

namespace FsGateway.Wire.Registry

variable {entries earlier before : List Entry} {e : Entry} {seen start : List Descriptor}
  {d : Descriptor} {op : Operation} {r : Registry} {fault : LayoutFault}

/-- The operations that have an entry. -/
def operations (entries : List Entry) : List Operation := entries.map (·.operation)

/-- A descriptor has the operation of an entry and the layouts of its records. -/
structure Describes (e : Entry) (d : Descriptor) : Prop where
  operation : d.operation = e.operation
  request : d.request.record = e.request.1 ∧ d.request.fields = e.request.2
  response : d.response.record = e.response.1 ∧ d.response.fields = e.response.2

/-- What is wrong with an entry that comes after others. -/
inductive Offends (earlier : List Entry) (e : Entry) : LayoutFault → Prop
  /-- Its operation has an entry already. -/
  | duplicate (h : e.operation ∈ operations earlier) : Offends earlier e (.duplicate e.operation)
  /-- Its request has no layout. -/
  | request {field after : String} (hnew : e.operation ∉ operations earlier)
      (h : Layout.Misplaced e.request.2 field after) :
      Offends earlier e (.fixedAfterVarying e.request.1 field after)
  /-- Its response has no layout, and its request has one. -/
  | response {field after : String} (hnew : e.operation ∉ operations earlier)
      (hrequest : Layout.VaryingLast e.request.2)
      (h : Layout.Misplaced e.response.2 field after) :
      Offends earlier e (.fixedAfterVarying e.response.1 field after)

/-- Nothing is wrong with any entry after the entries before it. -/
def Untroubled (entries : List Entry) : Prop :=
  ∀ before e after fault, entries = before ++ e :: after → ¬ Offends before e fault

/-- What is wrong with the first entry with which something is wrong. -/
def FirstOffence (entries : List Entry) (fault : LayoutFault) : Prop :=
  ∃ before e after, entries = before ++ e :: after ∧ Untroubled before ∧ Offends before e fault

/-! ## One entry -/

theorem describes_iff : Describes e d ↔ d.operation = e.operation ∧
    Layout.ofFields e.request.1 e.request.2 = .ok d.request ∧
    Layout.ofFields e.response.1 e.response.2 = .ok d.response := by
  rw [Layout.ofFields_eq_ok_iff, Layout.ofFields_eq_ok_iff]
  constructor
  · intro h
    exact ⟨h.operation, h.request, h.response⟩
  · intro ⟨hoperation, hrequest, hresponse⟩
    exact ⟨hoperation, hrequest, hresponse⟩

/-- An entry has one descriptor. -/
theorem Describes.unique {d' : Descriptor} (h : Describes e d) (h' : Describes e d') : d = d' := by
  obtain ⟨operation, request, response⟩ := d
  obtain ⟨operation', request', response'⟩ := d'
  obtain ⟨ho, hq, hs⟩ := describes_iff.mp h
  obtain ⟨ho', hq', hs'⟩ := describes_iff.mp h'
  rw [hq, Except.ok.injEq] at hq'
  rw [hs, Except.ok.injEq] at hs'
  rw [Descriptor.mk.injEq]
  exact ⟨ho.trans ho'.symm, hq', hs'⟩

theorem isRegistered_iff :
    seen.any (·.operation = op) = true ↔ op ∈ seen.map (·.operation) := by
  rw [List.any_eq_true, List.mem_map]
  simp only [decide_eq_true_eq]

theorem register_eq_ok_iff {seen' : List Descriptor} : register seen e = .ok seen' ↔
    e.operation ∉ seen.map (·.operation) ∧ ∃ d, Describes e d ∧ seen' = seen ++ [d] := by
  unfold register
  by_cases hnew : e.operation ∈ seen.map (·.operation)
  · rw [if_pos (isRegistered_iff.mpr hnew)]
    exact iff_of_false (fun h => by cases h) fun h => h.1 hnew
  · rw [if_neg (mt isRegistered_iff.mp hnew)]
    simp only [Outcome.bind_eq_ok_iff, describes_iff]
    constructor
    · intro ⟨request, hrequest, response, hresponse, heq⟩
      cases heq
      exact ⟨hnew, ⟨e.operation, request, response⟩, ⟨rfl, hrequest, hresponse⟩, rfl⟩
    · intro ⟨_, d, ⟨hoperation, hrequest, hresponse⟩, heq⟩
      refine ⟨d.request, hrequest, d.response, hresponse, ?_⟩
      rw [heq, ← hoperation]
      rfl

/-- An entry is refused for what is wrong with it. -/
theorem register_eq_error_iff (hseen : seen.map (·.operation) = operations earlier) :
    register seen e = .error fault ↔ Offends earlier e fault := by
  unfold register
  by_cases hnew : e.operation ∈ operations earlier
  · rw [if_pos (isRegistered_iff.mpr (hseen ▸ hnew))]
    constructor
    · intro h
      cases h
      exact .duplicate hnew
    · intro h
      cases h with
      | duplicate => rfl
      | request hnew' => exact absurd hnew hnew'
      | response hnew' => exact absurd hnew hnew'
  · rw [if_neg (mt isRegistered_iff.mp (hseen ▸ hnew)), Outcome.bind_eq_error_iff]
    simp only [Outcome.bind_eq_error_iff, Layout.ofFields_eq_error_iff]
    constructor
    · intro h
      obtain ⟨field, after, hmisplaced, rfl⟩ | ⟨request, hrequest, h⟩ := h
      · exact .request hnew hmisplaced
      · obtain ⟨field, after, hmisplaced, rfl⟩ | ⟨response, -, h⟩ := h
        · exact .response hnew (Layout.exists_ofFields_iff.mp ⟨request, hrequest⟩) hmisplaced
        · cases h
    · intro h
      cases h with
      | duplicate hold => exact absurd hold hnew
      | request _ hmisplaced => exact .inl ⟨_, _, hmisplaced, rfl⟩
      | response _ hrequest hmisplaced =>
        obtain ⟨request, hrequest⟩ := Layout.exists_ofFields_iff.mpr hrequest
        exact .inr ⟨request, hrequest, .inl ⟨_, _, hmisplaced, rfl⟩⟩

/-! ## Entries one after another -/

/-- After entries that are registered, more entries are registered where none of them has an operation
that is registered already. -/
theorem foldlM_register_eq_ok_iff (hstart : (start.map (·.operation)).Nodup) :
    entries.foldlM register start = .ok seen ↔
      (start.map (·.operation) ++ operations entries).Nodup ∧
        ∃ more, List.Forall₂ Describes entries more ∧ seen = start ++ more := by
  induction entries generalizing start with
  | nil =>
    constructor
    · intro h
      cases h
      exact ⟨by simpa [operations] using hstart, [], .nil, (List.append_nil _).symm⟩
    · intro ⟨_, more, hmore, heq⟩
      rw [heq, List.forall₂_nil_left_iff.mp hmore, List.append_nil]
      rfl
  | cons e entries ih =>
    have hconcat : ∀ d, Describes e d →
        (start ++ [d]).map (·.operation) ++ operations entries =
          start.map (·.operation) ++ operations (e :: entries) := by
      intro d hd
      simp [operations, hd.operation]
    rw [List.foldlM_cons, Outcome.bind_eq_ok_iff]
    simp only [register_eq_ok_iff]
    constructor
    · intro ⟨next, ⟨hnew, d, hd, hnext⟩, hrest⟩
      have hnodup : (next.map (·.operation)).Nodup := by
        rw [hnext, List.map_append, List.map_singleton, hd.operation]
        refine List.nodup_append.mpr ⟨hstart, by simp, fun op hop op' hop' heq => hnew ?_⟩
        rw [← List.mem_singleton.mp hop', ← heq]
        exact hop
      obtain ⟨hall, more, hmore, heq⟩ := (ih hnodup).mp hrest
      rw [hnext, hconcat d hd] at hall
      refine ⟨hall, d :: more, .cons hd hmore, ?_⟩
      rw [heq, hnext, List.append_assoc]
      rfl
    · intro ⟨hall, more, hmore, heq⟩
      obtain ⟨d, more', hd, hmore', rfl⟩ := List.forall₂_cons_left_iff.mp hmore
      have hnew : e.operation ∉ start.map (·.operation) := by
        intro hmem
        exact (List.nodup_append.mp hall).2.2 _ hmem _ List.mem_cons_self rfl
      rw [← hconcat d hd] at hall
      refine ⟨start ++ [d], ⟨hnew, d, hd, rfl⟩, (ih (List.nodup_append.mp hall).1).mpr
        ⟨hall, more', hmore', ?_⟩⟩
      rw [heq, List.append_assoc]
      rfl

theorem registered_iff : entries.foldlM register [] = .ok seen ↔
    (operations entries).Nodup ∧ List.Forall₂ Describes entries seen := by
  rw [foldlM_register_eq_ok_iff (by simp)]
  simp only [List.map_nil, List.nil_append, exists_eq_right']

theorem map_operation_of_registered (h : List.Forall₂ Describes entries seen) :
    seen.map (·.operation) = operations entries := by
  induction h with
  | nil => rfl
  | cons hd _ ih =>
    rw [List.map_cons, hd.operation, ih]
    rfl

theorem exists_entry (h : List.Forall₂ Describes entries seen) (hd : d ∈ seen) :
    ∃ e ∈ entries, Describes e d := by
  induction h with
  | nil => cases hd
  | cons hfirst _ ih =>
    obtain rfl | hd := List.mem_cons.mp hd
    · exact ⟨_, List.mem_cons_self, hfirst⟩
    · obtain ⟨e, he, hdescribes⟩ := ih hd
      exact ⟨e, List.mem_cons_of_mem _ he, hdescribes⟩

theorem register_eq_error_of_registered (h : before.foldlM register [] = .ok seen) :
    register seen e = .error fault ↔ Offends before e fault :=
  register_eq_error_iff (map_operation_of_registered (registered_iff.mp h).2)

/-- Entries are registered where nothing is wrong with any of them. -/
theorem exists_registered_iff : (∃ seen, entries.foldlM register [] = .ok seen) ↔
    Untroubled entries := by
  constructor
  · intro ⟨seen, h⟩ before e after fault hsplit hoffends
    have hbefore := h
    rw [hsplit, List.foldlM_append] at hbefore
    obtain ⟨s, hs, -⟩ := Outcome.bind_eq_ok_iff.mp hbefore
    have herror := Outcome.foldlM_eq_error_iff.mpr
      ⟨before, e, after, s, hsplit, hs, (register_eq_error_of_registered hs).mpr hoffends⟩
    rw [h] at herror
    cases herror
  · intro h
    cases hrun : entries.foldlM register [] with
    | ok seen => exact ⟨seen, rfl⟩
    | error fault =>
      obtain ⟨before, e, after, s, hsplit, hs, herror⟩ := Outcome.foldlM_eq_error_iff.mp hrun
      exact absurd ((register_eq_error_of_registered hs).mp herror) (h before e after fault hsplit)

/-- Entries that are not registered have the fault of the first one with which something is wrong. -/
theorem foldlM_register_eq_error_iff : entries.foldlM register [] = .error fault ↔
    FirstOffence entries fault := by
  rw [Outcome.foldlM_eq_error_iff]
  constructor
  · intro ⟨before, e, after, s, hsplit, hs, herror⟩
    exact ⟨before, e, after, hsplit, exists_registered_iff.mp ⟨s, hs⟩,
      (register_eq_error_of_registered hs).mp herror⟩
  · intro ⟨before, e, after, hsplit, huntroubled, hoffends⟩
    obtain ⟨s, hs⟩ := exists_registered_iff.mpr huntroubled
    exact ⟨before, e, after, s, hsplit, hs, (register_eq_error_of_registered hs).mpr hoffends⟩

/-! ## All operations -/

theorem find?_isNone_iff : (find? seen op).isNone = true ↔ op ∉ seen.map (·.operation) := by
  rw [find?, Option.isNone_iff_eq_none, List.find?_eq_none, List.mem_map]
  simp only [decide_eq_true_eq, not_exists, not_and]

/-- What is found in the table is the first operation with a property. -/
theorem find?_all_eq_some_iff {p : Operation → Bool} : Operation.all.find? p = some op ↔
    p op = true ∧ ∀ op' : Operation, op'.index < op.index → p op' = false := by
  have hat : ∀ op : Operation, Operation.all[op.index]? = some op := by decide
  have hindex : ∀ i (hi : i < Operation.all.length), (Operation.all[i]).index = i := by decide
  rw [List.find?_eq_some_iff_getElem]
  refine and_congr_right fun _ => ?_
  constructor
  · intro ⟨i, hi, hop, hbefore⟩ op' hop'
    rw [← hop, hindex i hi] at hop'
    obtain ⟨_, hget⟩ := List.getElem?_eq_some_iff.mp (hat op')
    simpa [hget] using hbefore op'.index hop'
  · intro h
    obtain ⟨hlt, hget⟩ := List.getElem?_eq_some_iff.mp (hat op)
    refine ⟨op.index, hlt, hget, fun j hj => ?_⟩
    rw [h _ (by rw [hindex]; exact hj)]
    rfl

theorem complete_eq_ok_iff : complete seen = .ok r ↔
    ∀ op, find? seen op = some (r.descriptor op) := by
  unfold complete
  split
  · rename_i op hmissing
    refine iff_of_false (fun h => by cases h) fun h => ?_
    have hnone := List.find?_some hmissing
    rw [h op] at hnone
    cases hnone
  · constructor
    · intro h op
      cases h
      exact (Option.some_get _).symm
    · intro h
      refine congrArg (Except.ok ∘ Registry.mk) (funext fun op => ?_)
      exact Option.get_of_eq_some _ (h op)

theorem complete_eq_error_iff : complete seen = .error fault ↔
    ∃ op, fault = .missing op ∧ op ∉ seen.map (·.operation) ∧
      ∀ op' : Operation, op'.index < op.index → op' ∈ seen.map (·.operation) := by
  have hfirst : ∀ op, (op ∉ seen.map (·.operation) ∧
      ∀ op' : Operation, op'.index < op.index → op' ∈ seen.map (·.operation)) ↔
        Operation.all.find? (fun op => (find? seen op).isNone) = some op := by
    intro op
    rw [find?_all_eq_some_iff, find?_isNone_iff]
    simp only [← Bool.not_eq_true, find?_isNone_iff, Decidable.not_not]
  simp only [hfirst]
  unfold complete
  split
  · rename_i op hmissing
    rw [hmissing]
    constructor
    · intro h
      cases h
      exact ⟨op, rfl, rfl⟩
    · intro ⟨op', hfault, hop'⟩
      cases hop'
      rw [hfault]
  · rename_i hnone
    refine iff_of_false (fun h => by cases h) fun ⟨op, _, h⟩ => ?_
    rw [hnone] at h
    cases h

/-! ## The registry of a list -/

/-- The registry of a list describes, for every operation, the only entry it has. -/
theorem ofEntries_eq_ok_iff : ofEntries entries = .ok r ↔ (operations entries).Nodup ∧
    ∀ op, ∃ e ∈ entries, e.operation = op ∧ Describes e (r.descriptor op) := by
  rw [ofEntries, Outcome.bind_eq_ok_iff]
  simp only [registered_iff, complete_eq_ok_iff]
  constructor
  · intro ⟨seen, ⟨hnodup, hall⟩, hfind⟩
    refine ⟨hnodup, fun op => ?_⟩
    obtain ⟨e, he, hdescribes⟩ := exists_entry hall (List.mem_of_find?_eq_some (hfind op))
    refine ⟨e, he, ?_, hdescribes⟩
    have hop := List.find?_some (hfind op)
    rw [← hdescribes.operation]
    simpa using hop
  · intro ⟨hnodup, hdescribed⟩
    -- an entry is the only one of its operation, so it is the one that the registry describes
    have hown : ∀ e ∈ entries, Describes e (r.descriptor e.operation) := by
      intro e he
      obtain ⟨e', he', hop, hdescribes⟩ := hdescribed e.operation
      have heq := List.inj_on_of_nodup_map hnodup he' he hop
      exact heq ▸ hdescribes
    refine ⟨entries.map fun e => r.descriptor e.operation, ⟨hnodup, ?_⟩, fun op => ?_⟩
    · rw [List.forall₂_map_right_iff, List.forall₂_same]
      exact hown
    · cases hfind : find? (entries.map fun e => r.descriptor e.operation) op with
      | none =>
        obtain ⟨e, he, hop, hdescribes⟩ := hdescribed op
        refine absurd ?_ (find?_isNone_iff.mp (by rw [hfind]; rfl))
        rw [List.map_map, List.mem_map]
        exact ⟨e, he, (hown e he).operation.trans hop⟩
      | some d =>
        obtain ⟨e, he, rfl⟩ := List.mem_map.mp (List.mem_of_find?_eq_some hfind)
        have hop : (r.descriptor e.operation).operation = op := by
          simpa using List.find?_some hfind
        rw [← hop, (hown e he).operation]

/-- A list in any order makes the same registry. -/
theorem ofEntries_perm {entries' : List Entry} (hperm : entries.Perm entries')
    (h : ofEntries entries = .ok r) : ofEntries entries' = .ok r := by
  obtain ⟨hnodup, hdescribed⟩ := ofEntries_eq_ok_iff.mp h
  refine ofEntries_eq_ok_iff.mpr ⟨(hperm.map _).nodup_iff.mp hnodup, fun op => ?_⟩
  obtain ⟨e, he, hop, hdescribes⟩ := hdescribed op
  exact ⟨e, hperm.mem_iff.mp he, hop, hdescribes⟩

/-- A list makes a registry where every operation occurs once and every record has a layout. -/
theorem exists_ofEntries_iff : (∃ r, ofEntries entries = .ok r) ↔
    (∀ op, (operations entries).count op = 1) ∧
      ∀ e ∈ entries, Layout.VaryingLast e.request.2 ∧ Layout.VaryingLast e.response.2 := by
  simp only [ofEntries_eq_ok_iff]
  constructor
  · intro ⟨r, hnodup, hdescribed⟩
    refine ⟨fun op => ?_, fun e he => ?_⟩
    · obtain ⟨e, he, hop, -⟩ := hdescribed op
      exact List.count_eq_one_of_mem hnodup (List.mem_map.mpr ⟨e, he, hop⟩)
    · obtain ⟨e', he', hop, hdescribes⟩ := hdescribed e.operation
      have heq := List.inj_on_of_nodup_map hnodup he' he hop
      obtain ⟨-, hrequest, hresponse⟩ := describes_iff.mp (heq ▸ hdescribes)
      exact ⟨Layout.exists_ofFields_iff.mp ⟨_, hrequest⟩, Layout.exists_ofFields_iff.mp ⟨_, hresponse⟩⟩
  · intro ⟨honce, hlast⟩
    have hexists : ∀ op, ∃ d, ∃ e ∈ entries, e.operation = op ∧ Describes e d := by
      intro op
      have hmem : op ∈ operations entries := by
        rw [← List.count_pos_iff, honce op]
        exact Nat.one_pos
      obtain ⟨e, he, hop⟩ := List.mem_map.mp hmem
      obtain ⟨request, hrequest⟩ := Layout.exists_ofFields_iff.mpr (hlast e he).1
      obtain ⟨response, hresponse⟩ := Layout.exists_ofFields_iff.mpr (hlast e he).2
      exact ⟨⟨e.operation, request, response⟩, e, he, hop,
        describes_iff.mpr ⟨rfl, hrequest, hresponse⟩⟩
    choose descriptor hdescriptor using hexists
    refine ⟨⟨descriptor⟩, List.nodup_iff_count_le_one.mpr fun op => ?_, hdescriptor⟩
    exact Nat.le_of_eq (honce op)

theorem ofEntries_eq_error_iff : ofEntries entries = .error fault ↔
    FirstOffence entries fault ∨ Untroubled entries ∧
      ∃ op, fault = .missing op ∧ op ∉ operations entries ∧
        ∀ op' : Operation, op'.index < op.index → op' ∈ operations entries := by
  rw [ofEntries, Outcome.bind_eq_error_iff, foldlM_register_eq_error_iff, ← exists_registered_iff]
  refine or_congr_right ?_
  constructor
  · intro ⟨seen, hseen, herror⟩
    rw [complete_eq_error_iff, map_operation_of_registered (registered_iff.mp hseen).2] at herror
    exact ⟨⟨seen, hseen⟩, herror⟩
  · intro ⟨⟨seen, hseen⟩, herror⟩
    refine ⟨seen, hseen, ?_⟩
    rw [complete_eq_error_iff, map_operation_of_registered (registered_iff.mp hseen).2]
    exact herror

/-- A list makes a registry where every operation occurs once and no record has a field of fixed width
after one of varying length. The registry then holds the operation, the path and the layouts of the only
entry of every operation, in whatever order the entries come. The fault of another list is that of its
first entry with which something is wrong, or else the first operation without an entry. -/
theorem ofEntries_outcome (entries : List Entry) :
    ((∃ r, ofEntries entries = .ok r) ↔ (∀ op, (operations entries).count op = 1) ∧
      ∀ e ∈ entries, Layout.VaryingLast e.request.2 ∧ Layout.VaryingLast e.response.2) ∧
    (∀ r, ofEntries entries = .ok r →
      (∀ op, (r.descriptor op).operation = op ∧ (r.descriptor op).path = "/v1/" ++ op.name ∧
        ∃ e, (∀ e', e' ∈ entries ∧ e'.operation = op ↔ e' = e) ∧ Describes e (r.descriptor op)) ∧
      ∀ entries', entries.Perm entries' → ofEntries entries' = .ok r) ∧
    (∀ fault, ofEntries entries = .error fault ↔
      FirstOffence entries fault ∨ Untroubled entries ∧
        ∃ op, fault = .missing op ∧ op ∉ operations entries ∧
          ∀ op' : Operation, op'.index < op.index → op' ∈ operations entries) := by
  refine ⟨exists_ofEntries_iff, fun r h => ⟨fun op => ?_, fun entries' hperm => ?_⟩,
    fun fault => ofEntries_eq_error_iff⟩
  · obtain ⟨hnodup, hdescribed⟩ := ofEntries_eq_ok_iff.mp h
    obtain ⟨e, he, hop, hdescribes⟩ := hdescribed op
    have hoperation := hdescribes.operation.trans hop
    refine ⟨hoperation, by rw [Descriptor.path, hoperation]; rfl, e, fun e' => ?_, hdescribes⟩
    constructor
    · intro ⟨he', hop'⟩
      exact List.inj_on_of_nodup_map hnodup he' he (hop'.trans hop.symm)
    · intro heq
      rw [heq]
      exact ⟨he, hop⟩
  · exact ofEntries_perm hperm h

/-- The table in reverse order makes the registry of the table. -/
theorem ofEntries_outcome_reverse : ofEntries Registry.entries = .ok builtin ∧
    Registry.entries.Perm Registry.entries.reverse ∧
      ofEntries Registry.entries.reverse = .ok builtin := by
  have hperm : Registry.entries.Perm Registry.entries.reverse := (List.reverse_perm _).symm
  obtain ⟨-, hmade, -⟩ := ofEntries_outcome Registry.entries
  exact ⟨ofEntries_entries, hperm, (hmade builtin ofEntries_entries).2 _ hperm⟩

end FsGateway.Wire.Registry
