import FsGateway.Proofs.Json.Grammar
import FsGateway.Proofs.Json.Numerals
import FsGateway.Proofs.Json.Strings

/-!
# Documents are read as they are printed

A node that is made of texts, whole numbers and the other nodes is printed as a document from which
it is read back.

* `Node.Spelled`: strings and numbers of a node are spelled such that their ends are found.
* `print_written`: what is printed is one of the texts of the node.
* `parse_print`: a printed node is read back.
-/

namespace FsGateway.Json.Node

variable {n : Node} {raw lexeme : Bytes}

/-! ## Nodes whose parts have ends -/

/-- The end of a string in its raw form is found. -/
def IsRaw (raw : Bytes) : Prop := ∀ rest, Text.scan (raw ++ Text.quote :: rest) = some (raw, rest)

/-- A number starts with a byte. -/
def StartsNumber (b : UInt8) : Prop := b = 0x2D ∨ isDigit b = true

/-- The end of a number is found. -/
structure IsLexeme (lexeme : Bytes) : Prop where
  head : ∃ b ds, lexeme = b :: ds ∧ StartsNumber b
  scan : ∀ rest, Delimited rest → scanNumber (lexeme ++ rest) = some (lexeme, rest)

mutual

/-- No part of a node is missing, and the ends of its strings and numbers are found. -/
def Spelled : Node → Prop
  | .null | .bool _ => True
  | .number lexeme => IsLexeme lexeme
  | .string raw => IsRaw raw
  | .array items closed => closed = true ∧ AllSpelled items
  | .object members closed => closed = true ∧ MembersSpelled members
  | .broken => False

/-- The same for all items. -/
def AllSpelled : List Node → Prop
  | [] => True
  | n :: ns => n.Spelled ∧ AllSpelled ns

/-- The same for all members and their names. -/
def MembersSpelled : List (Bytes × Node) → Prop
  | [] => True
  | (name, n) :: ms => IsRaw name ∧ n.Spelled ∧ MembersSpelled ms

end

theorem isRaw_raw (s : String) : IsRaw (Text.raw s) := Text.scan_raw s

theorem isLexeme_intLexeme (i : Int) : IsLexeme (Number.intLexeme i) where
  head := by
    cases i with
    | ofNat n =>
      obtain ⟨b, ds, hb, hdigit, -⟩ := Number.natLexeme_head n
      exact ⟨b, ds, hb, Or.inr hdigit⟩
    | negSucc n => exact ⟨_, _, rfl, Or.inl rfl⟩
  scan := fun rest hrest => Number.scanNumber_intLexeme i hrest

theorem allSpelled_of_forall {items : List Node} (h : ∀ n ∈ items, n.Spelled) :
    AllSpelled items := by
  induction items with
  | nil => trivial
  | cons n ns ih =>
    exact ⟨h n List.mem_cons_self, ih fun n hn => h n (List.mem_cons_of_mem _ hn)⟩

/-! ## Printing -/

/-- A string whose end is found has the form of one. -/
theorem IsRaw.rawForm (h : IsRaw raw) : Text.RawForm raw := (Text.of_scan (h [])).1

/-- A number whose end is found has the form of one. -/
theorem IsLexeme.numeral (h : IsLexeme lexeme) : Numeral lexeme :=
  (scanNumber_eq_some (h.scan [] trivial)).1

/-- A value with no space around it. -/
theorem WrittenAs.document {t : Bytes} (h : WrittenAs n t) : DocumentOf n t := by
  have hdocument := DocumentOf.mk blank_nil h blank_nil
  rwa [List.nil_append, List.append_nil] at hdocument

/-- A name with no space around it. -/
theorem IsRaw.name (h : IsRaw raw) : NameOf raw (Text.quote :: raw ++ Text.quote :: [0x3A]) := by
  have hname := NameOf.mk blank_nil h.rawForm blank_nil
  rwa [List.nil_append, List.append_assoc] at hname

mutual

/-- What is printed is one of the texts of the node. -/
theorem print_written : (n : Node) → n.Spelled → WrittenAs n n.print
  | .null, _ => .null
  | .bool true, _ => .bool true
  | .bool false, _ => .bool false
  | .number _, h => .number (IsLexeme.numeral h)
  | .string _, h => .string (IsRaw.rawForm h)
  | .array [] true, _ => .emptyArray blank_nil
  | .array (n :: ns) true, h => .array (printItems_written (n :: ns) (by simp) h.2)
  | .object [] true, _ => .emptyObject blank_nil
  | .object (m :: ms) true, h => .object (printMembers_written (m :: ms) (by simp) h.2)

theorem printItems_written : (items : List Node) → items ≠ [] → AllSpelled items →
    ItemsWrittenAs items (printItems items)
  | [], hne, _ => absurd rfl hne
  | [n], _, h => .last (print_written n h.1).document
  | n :: n' :: ns, _, h =>
    .more (print_written n h.1).document (printItems_written (n' :: ns) (by simp) h.2)

theorem printMembers_written : (members : List (Bytes × Node)) → members ≠ [] →
    MembersSpelled members → MembersWrittenAs members (printMembers members)
  | [], hne, _ => absurd rfl hne
  | [(name, n)], _, h => by
    have hwritten := MembersWrittenAs.last h.1.name (print_written n h.2.1).document
    simpa [printMembers] using hwritten
  | (name, n) :: member :: ms, _, h => by
    have hwritten := MembersWrittenAs.more h.1.name (print_written n h.2.1).document
      (printMembers_written (member :: ms) (by simp) h.2.2)
    simpa [printMembers] using hwritten

end

/-- A printed node is read back, and nothing is left. -/
theorem parse_print (h : n.Spelled) : parse n.print = (n, true) :=
  parse_eq_iff.mpr (print_written n h).document

end FsGateway.Json.Node
