import FsGateway.Proofs.Checked
import FsGateway.Proofs.Wire.Raw

/-!
# The raw encoding by positions

A layout can also be taken as one list of fields with the number of those of varying length, and a
payload as bytes with a position in them. Encoding and decoding then look up fields, values and
bytes by their positions, and meet fields of the other kind only if the layout is no layout. Every
such step has a result: these computations are the encoding and the decoding.

* `decodeAt_returns`, `encodeAt_returns`: no look-up is outside a list, and no field is of the
  wrong kind.
-/

namespace FsGateway.Wire.Raw

open Checked (slice? less? Returns)

variable {l : Layout} {body b : Bytes} {values : List FieldValue}

/-! ## Fields -/

/-- All fields but the last, of which there are as many as fields of varying length. -/
def fixedFields? (l : Layout) : Option (List Field) := do
  slice? l.fields 0 (← less? l.fields.length l.tail.length)

/-- The last fields, as many as there are fields of varying length. -/
def varyingFields? (l : Layout) : Option (List Field) := do
  slice? l.fields (← less? l.fields.length l.tail.length) l.fields.length

/-- A field of fixed width. -/
def ofFixed (f : Named FixedType) : Field := ⟨f.name, .fixed f.type⟩

/-- A field of varying length. -/
def ofVarying (f : Named VaryingType) : Field := ⟨f.name, .varying f.type⟩

theorem less?_fields (l : Layout) : less? l.fields.length l.tail.length = some l.head.length := by
  have hlength : l.fields.length = l.head.length + l.tail.length := by simp [Layout.fields]
  rw [Checked.less?_eq_some (by omega)]
  exact congrArg some (by omega)

theorem fixedFields?_eq_some (l : Layout) : fixedFields? l = some (l.head.map ofFixed) := by
  have hlength : (l.head.map ofFixed).length = l.head.length := List.length_map _
  rw [fixedFields?, less?_fields]
  refine (Checked.slice?_take (by simp [Layout.fields])).trans (congrArg some ?_)
  exact List.take_left' hlength

theorem varyingFields?_eq_some (l : Layout) : varyingFields? l = some (l.tail.map ofVarying) := by
  have hlength : (l.head.map ofFixed).length = l.head.length := List.length_map _
  rw [varyingFields?, less?_fields]
  refine (Checked.slice?_drop (by simp [Layout.fields])).trans (congrArg some ?_)
  exact List.drop_left' hlength

/-! ## Decoding -/

/-- The values of the prefix, field by field from a position on. There must be no field of varying
length. -/
def scalars? : List Field → Bytes → (pos : Nat) → Option (List FieldValue)
  | [], _, _ => some []
  | f :: fields, b, pos =>
    match f.type with
    | .fixed t => do
      let word ← slice? b pos (pos + t.width)
      return fixedValue t word :: (← scalars? fields b (pos + t.width))
    | .varying _ => none

/-- The value of one of the last fields: text, or else bytes. -/
def lastValue (f : Field) (b : Bytes) : Except CodecFault FieldValue :=
  match f.type with
  | .varying .text =>
    match Text.decode? b with
    | some s => .ok (.text s)
    | none => .error (.invalidUtf8 f.name)
  | _ => .ok (.blob b)

/-- The field of which `value` has been read up to a position, and the position after it. -/
def escapedAt (input : Bytes) (pos : Nat) (value : Bytes) :
    Option (Except Escape.Fault (Bytes × Nat)) :=
  if pos < input.length then
    match input[pos]? with
    | none => none
    | some b =>
      if b = Escape.newline then some (.ok (value, pos + 1))
      else if b = Escape.backslash then
        match input[pos + 1]? with
        | none => some (.error (.invalid pos))
        | some c =>
          if c = Escape.backslash then escapedAt input (pos + 2) (value ++ [Escape.backslash])
          else if c = Escape.letterN then escapedAt input (pos + 2) (value ++ [Escape.newline])
          else some (.error (.invalid pos))
      else escapedAt input (pos + 1) (value ++ [b])
  else some (.error .unterminated)
termination_by input.length - pos

/-- The values of escaped fields from a position on, and the position after them. -/
def delimitedAt : List Field → Bytes → (pos : Nat) → ExceptT CodecFault Option (List FieldValue × Nat)
  | [], _, pos => pure ([], pos)
  | f :: fields, b, pos => do
    let input ← slice? b pos b.length
    let outcome ← escapedAt input 0 []
    let (value, used) ← outcome.mapError (CodecFault.ofEscape f.name)
    let v ← lastValue f value
    let (vs, stop) ← delimitedAt fields b (pos + used)
    pure (v :: vs, stop)

/-- The values of the fields of varying length. -/
def tailAt (l : Layout) (rest : Bytes) : ExceptT CodecFault Option (List FieldValue) :=
  match l.shape with
  | .empty | .fixed => pure []
  | .wholeBody | .prefixAndTail => do
    let fields ← varyingFields? l
    let f ← (fields[0]? : Option Field)
    let v ← lastValue f rest
    pure [v]
  | .delimited => do
    let fields ← varyingFields? l
    let (vs, stop) ← delimitedAt fields rest 0
    if stop ≠ rest.length then do
      let surplus ← less? rest.length stop
      throw (.trailingBytes surplus)
    else pure vs

/-- The field values of a payload. -/
def decodeAt (l : Layout) (body : Bytes) : ExceptT CodecFault Option (List FieldValue) :=
  if body.length < l.prefixLength then throw (.shortRead l.prefixLength body.length)
  else do
    let bytes ← slice? body 0 l.prefixLength
    let fields ← fixedFields? l
    let values ← scalars? fields bytes 0
    let rest ← slice? body l.prefixLength body.length
    let more ← tailAt l rest
    pure (values ++ more)

theorem scalars?_eq_some {head : List (Named FixedType)} {pos : Nat}
    (h : pos + headWidth head ≤ b.length) :
    scalars? (head.map ofFixed) b pos = some (decodeHead head (b.drop pos)) := by
  induction head generalizing pos with
  | nil => rfl
  | cons f head ih =>
    have hwidth : headWidth (f :: head) = f.type.width + headWidth head := rfl
    simp only [List.map_cons, scalars?, ofFixed]
    rw [Checked.slice?_eq_some (Nat.le_add_right _ _) (by omega), ih (by omega),
      Nat.add_sub_cancel_left, ← List.drop_drop]
    rfl

theorem lastValue_ofVarying (f : Named VaryingType) (b : Bytes) :
    lastValue (ofVarying f) b = varyingValue f b := by
  obtain ⟨name, type⟩ := f
  cases type <;> rfl

theorem drop_of_getElem? {i : Nat} {x : UInt8} (h : b[i]? = some x) :
    b.drop i = x :: b.drop (i + 1) := by
  obtain ⟨hi, hx⟩ := List.getElem?_eq_some_iff.mp h
  rw [List.drop_eq_getElem_cons hi, hx]

/-- One byte of a field, escaped, is read before what follows it. -/
theorem map_readAt_escape {x : UInt8} {input rest : Bytes} {pos : Nat} (value : Bytes) (n : Nat)
    (h : input.drop pos = Escape.escape x ++ rest) :
    (Escape.readAt pos (input.drop pos)).map (fun r => (value ++ r.1, n - r.2.length)) =
      (Escape.readAt (pos + (Escape.escape x).length) rest).map
        fun r => (value ++ [x] ++ r.1, n - r.2.length) := by
  rw [h, Escape.readAt_escape]
  cases Escape.readAt (pos + (Escape.escape x).length) rest with
  | error fault => rfl
  | ok r => simp only [Except.map, List.append_assoc, List.singleton_append]

/-- A field is read position by position as it is read byte by byte. -/
theorem escapedAt_eq_some (input : Bytes) (pos : Nat) (value : Bytes) : escapedAt input pos value =
    some ((Escape.readAt pos (input.drop pos)).map fun r =>
      (value ++ r.1, input.length - r.2.length)) := by
  have hne : ¬ Escape.backslash = Escape.newline := by decide
  have hbackslash : Escape.escape Escape.backslash = [Escape.backslash, Escape.backslash] := by decide
  have hnewline : Escape.escape Escape.newline = [Escape.backslash, Escape.letterN] := by decide
  fun_induction escapedAt input pos value with
  | case1 pos value hpos hnone =>
    have hle := List.getElem?_eq_none_iff.mp hnone
    omega
  | case2 pos value hpos hx =>
    rw [drop_of_getElem? hx, Escape.readAt_newline, Except.map, List.append_nil, List.length_drop]
    congr 3
    omega
  | case3 pos value hpos hc hx _ =>
    rw [drop_of_getElem? hx, List.drop_eq_nil_of_le (List.getElem?_eq_none_iff.mp hc), Escape.readAt,
      if_neg hne, if_pos rfl]
    rfl
  | case4 pos value hpos hx _ hc ih =>
    have hdrop : input.drop pos = Escape.escape Escape.backslash ++ input.drop (pos + 2) := by
      rw [drop_of_getElem? hx, drop_of_getElem? hc, hbackslash]
      rfl
    rw [ih, map_readAt_escape value input.length hdrop, hbackslash]
    rfl
  | case5 pos value hpos hx _ hc _ ih =>
    have hdrop : input.drop pos = Escape.escape Escape.newline ++ input.drop (pos + 2) := by
      rw [drop_of_getElem? hx, drop_of_getElem? hc, hnewline]
      rfl
    rw [ih, map_readAt_escape value input.length hdrop, hnewline]
    rfl
  | case6 pos value hpos c hc hb hn hx _ =>
    rw [drop_of_getElem? hx, drop_of_getElem? hc, Escape.readAt, if_neg hne, if_pos rfl]
    simp only [if_neg hb, if_neg hn]
    rfl
  | case7 pos value hpos c hx hn hb ih =>
    have hplain : Escape.escape c = [c] := by rw [Escape.escape, if_neg hb, if_neg hn]
    have hdrop : input.drop pos = Escape.escape c ++ input.drop (pos + 1) := by
      rw [drop_of_getElem? hx, hplain]
      rfl
    rw [ih, map_readAt_escape value input.length hdrop, hplain]
    rfl
  | case8 pos value hpos =>
    rw [List.drop_eq_nil_of_le (Nat.not_lt.mp hpos), Escape.readAt]
    rfl

/-- The position after a field is that of the bytes after it. -/
theorem drop_of_readAt {pos : Nat} {value rest : Bytes} (h : pos ≤ b.length)
    (hread : Escape.readAt 0 (b.drop pos) = .ok (value, rest)) :
    pos + ((b.drop pos).length - rest.length) ≤ b.length ∧
      b.drop (pos + ((b.drop pos).length - rest.length)) = rest := by
  have hsplit := Escape.eq_write_of_readAt hread
  have hused : (b.drop pos).length - rest.length = (Escape.write value).length := by
    rw [hsplit, List.length_append, Nat.add_sub_cancel]
  constructor
  · rw [List.length_drop]
    omega
  · rw [hused, ← List.drop_drop, hsplit, List.drop_left]

theorem delimitedAt_returns (tail : List (Named VaryingType)) (b : Bytes) {pos : Nat}
    (h : pos ≤ b.length) : Returns (delimitedAt (tail.map ofVarying) b pos)
      ((decodeDelimited tail (b.drop pos)).map fun r => (r.1, b.length - r.2.length)) := by
  induction tail generalizing pos with
  | nil =>
    have hstop : b.length - (b.drop pos).length = pos := by
      rw [List.length_drop]
      omega
    rw [decodeDelimited, Except.map, hstop]
    exact Returns.pure _
  | cons f tail ih =>
    have hescaped := escapedAt_eq_some (b.drop pos) 0 []
    rw [List.drop_zero] at hescaped
    refine Returns.step (Checked.slice?_drop h) (Returns.step hescaped ?_)
    rw [decodeDelimited, Escape.read]
    cases hread : Escape.readAt 0 (b.drop pos) with
    | error fault => exact Returns.bind_error rfl
    | ok r =>
      obtain ⟨value, rest⟩ := r
      obtain ⟨hle, hnext⟩ := drop_of_readAt h hread
      have hrest := ih hle
      rw [hnext] at hrest
      refine Returns.bind_ok rfl ?_
      simp only [List.nil_append, lastValue_ofVarying]
      change Returns _ (Except.map _ (varyingValue f value >>= fun v =>
        decodeDelimited tail rest >>= fun r => pure (v :: r.1, r.2)))
      cases varyingValue f value with
      | error fault => exact Returns.bind_error rfl
      | ok v =>
        refine Returns.bind_ok rfl ?_
        cases hmore : decodeDelimited tail rest with
        | error fault =>
          rw [hmore] at hrest
          exact Returns.bind_error hrest
        | ok r =>
          rw [hmore] at hrest
          exact Returns.bind_ok hrest (Returns.pure _)

/-- The bytes after the prefix are not looked at. -/
theorem decodeHead_take (head : List (Named FixedType)) (b : Bytes) :
    decodeHead head (b.take (headWidth head)) = decodeHead head b := by
  induction head generalizing b with
  | nil => rfl
  | cons f head ih =>
    have hwidth : headWidth (f :: head) = f.type.width + headWidth head := rfl
    rw [decodeHead, decodeHead, hwidth, List.take_take, Nat.min_eq_left (Nat.le_add_right _ _),
      List.drop_take, Nat.add_sub_cancel_left, ih]

theorem tailAt_returns (l : Layout) (rest : Bytes) :
    Returns (tailAt l rest) (decodeTail l.tail rest) := by
  have hfields := varyingFields?_eq_some l
  unfold tailAt
  obtain ⟨record, head, tail⟩ := l
  match tail with
  | [] => cases head <;> exact Returns.pure []
  | [f] =>
    have hone : Returns (do
        let fields ← varyingFields? ⟨record, head, [f]⟩
        let f ← (fields[0]? : Option Field)
        let v ← (lastValue f rest : ExceptT CodecFault Option FieldValue)
        pure [v]) (decodeTail [f] rest) := by
      refine Returns.step hfields (Returns.step rfl ?_)
      rw [lastValue_ofVarying]
      exact Returns.bind (Returns.outcome _) fun v => Returns.pure [v]
    cases head <;> exact hone
  | f :: g :: tail =>
    have hshape : Layout.shape ⟨record, head, f :: g :: tail⟩ = .delimited := by cases head <;> rfl
    have hread := delimitedAt_returns (f :: g :: tail) rest (Nat.zero_le _)
    rw [List.drop_zero] at hread
    rw [hshape]
    refine Returns.step hfields ?_
    change Returns _ (decodeDelimited (f :: g :: tail) rest >>= fun r =>
      if r.2.length ≠ 0 then .error (.trailingBytes r.2.length) else pure r.1)
    cases hvalues : decodeDelimited (f :: g :: tail) rest with
    | error fault =>
      rw [hvalues] at hread
      exact Returns.bind_error hread
    | ok r =>
      rw [hvalues] at hread
      refine Returns.bind_ok hread ?_
      obtain ⟨vs, after⟩ := r
      obtain ⟨-, hsplit⟩ := decodeDelimited_eq_ok_iff.mp hvalues
      have hle : after.length ≤ rest.length := by
        rw [hsplit, List.length_append]
        exact Nat.le_add_left _ _
      change Returns (if rest.length - after.length ≠ rest.length then _ else _)
        (if after.length ≠ 0 then .error (CodecFault.trailingBytes after.length)
          else (pure vs : Except CodecFault (List FieldValue)))
      by_cases hend : after.length = 0
      · rw [if_neg (by omega), if_neg (by omega)]
        exact Returns.pure vs
      · rw [if_pos (by omega), if_pos hend]
        refine Returns.step (Checked.less?_eq_some (Nat.sub_le _ _)) ?_
        rw [Nat.sub_sub_self hle]
        exact Returns.throw _

theorem decodeAt_returns (l : Layout) (body : Bytes) : Returns (decodeAt l body) (decode l body) := by
  unfold decodeAt decode
  by_cases hshort : body.length < l.prefixLength
  · rw [if_pos hshort, if_pos hshort]
    exact Returns.throw _
  · rw [if_neg hshort, if_neg hshort]
    have hlong : l.prefixLength ≤ body.length := by omega
    have hwidth : l.prefixLength = headWidth l.head := rfl
    have hscalars : scalars? (l.head.map ofFixed) (body.take l.prefixLength) 0 =
        some (decodeHead l.head body) := by
      rw [scalars?_eq_some (by rw [List.length_take]; omega), List.drop_zero, hwidth, decodeHead_take]
    refine Returns.step (Checked.slice?_take hlong) ?_
    refine Returns.step (fixedFields?_eq_some l) ?_
    refine Returns.step hscalars ?_
    refine Returns.step (Checked.slice?_drop hlong) ?_
    exact Returns.bind (tailAt_returns l _) fun more => Returns.pure _

/-! ## Encoding -/

/-- The first fault of values against fields. The field that is missing is looked up. -/
def checkTypesAt (fields : List Field) (values : List FieldValue) : ExceptT CodecFault Option Unit :=
  if values.length < fields.length then do
    let f ← (fields[values.length]? : Option Field)
    throw (.missingField f.name)
  else do
    checkEach fields values
    if values.length > fields.length then do
      let surplus ← less? values.length fields.length
      throw (.trailingBytes surplus)

/-- The bytes of a value of the prefix, which must not be of varying length. -/
def scalarBytes? (v : FieldValue) : Option Bytes :=
  match v.type with
  | .fixed _ => some v.bytes
  | .varying _ => none

/-- The bytes of one of the last values: text, or bytes, or else nothing. -/
def lastBytes : FieldValue → Bytes
  | .text s => Text.encode s
  | .blob b => b
  | _ => []

/-- The bytes of the prefix, followed by those of the last values. -/
def frameAt (shape : Shape) (bytes : Bytes) (values : List FieldValue) :
    ExceptT CodecFault Option Bytes :=
  match shape with
  | .empty | .fixed => pure bytes
  | .wholeBody | .prefixAndTail => do
    let v ← (values[0]? : Option FieldValue)
    pure (bytes ++ lastBytes v)
  | .delimited => pure (bytes ++ values.flatMap fun v => Escape.write (lastBytes v))

/-- The payload of a list of field values. -/
def encodeAt (l : Layout) (values : List FieldValue) : ExceptT CodecFault Option Bytes := do
  checkTypesAt l.fields values
  let fields ← fixedFields? l
  let first ← slice? values 0 fields.length
  let last ← slice? values fields.length values.length
  let bytes ← (first.mapM scalarBytes? : Option (List Bytes))
  frameAt l.shape bytes.flatten last

theorem checkTypesAt_returns (fields : List Field) (values : List FieldValue) :
    Returns (checkTypesAt fields values) (checkTypes fields values) := by
  unfold checkTypesAt checkTypes
  by_cases hfew : values.length < fields.length
  · have hfield := List.getElem?_eq_getElem hfew
    rw [if_pos hfew, hfield]
    exact Returns.throw _
  · have hnone : fields[values.length]? = none := List.getElem?_eq_none_iff.mpr (by omega)
    rw [if_neg hfew, hnone]
    refine Returns.bind (Returns.outcome _) fun _ => ?_
    by_cases hmany : values.length > fields.length
    · rw [if_pos hmany, if_pos hmany]
      exact Returns.step (Checked.less?_eq_some (by omega)) (Returns.throw _)
    · rw [if_neg hmany, if_neg hmany]
      exact Returns.pure ()

theorem mapM_scalarBytes? {head : List (Named FixedType)}
    (h : values.map (·.type) = head.map fun f => .fixed f.type) :
    values.mapM scalarBytes? = some (values.map (·.bytes)) := by
  induction values generalizing head with
  | nil => rfl
  | cons v values ih =>
    cases head with
    | nil => cases h
    | cons f head =>
      obtain ⟨hv, hvalues⟩ := List.cons.inj h
      have htype : v.type = .fixed f.type := hv
      have hbytes : scalarBytes? v = some v.bytes := by
        rw [scalarBytes?, htype]
      rw [List.mapM_cons, hbytes, ih hvalues]
      rfl

theorem lastBytes_eq {v : FieldValue} {t : VaryingType} (h : v.type = .varying t) :
    lastBytes v = v.bytes := by
  cases v <;> cases h <;> rfl

theorem flatMap_lastBytes {tail : List (Named VaryingType)}
    (h : values.map (·.type) = tail.map fun f => .varying f.type) :
    (values.flatMap fun v => Escape.write (lastBytes v)) =
      values.flatMap fun v => Escape.write v.bytes := by
  induction values generalizing tail with
  | nil => rfl
  | cons v values ih =>
    cases tail with
    | nil => cases h
    | cons f tail =>
      obtain ⟨hv, hvalues⟩ := List.cons.inj h
      rw [List.flatMap_cons, List.flatMap_cons, lastBytes_eq hv, ih hvalues]

theorem frameAt_returns {bytes : Bytes}
    (h : values.map (·.type) = l.tail.map fun f => .varying f.type) :
    Returns (frameAt l.shape bytes values) (.ok (bytes ++ frame l.shape values)) := by
  obtain ⟨record, head, tail⟩ := l
  match tail with
  | [] =>
    rw [frame_eq_nil rfl h, List.append_nil]
    cases head <;> exact Returns.pure bytes
  | [f] =>
    obtain ⟨v, rfl, hv⟩ := List.map_eq_singleton_iff.mp h
    have hone : Returns (do
        let v ← ([v][0]? : Option FieldValue)
        (pure (bytes ++ lastBytes v) : ExceptT CodecFault Option Bytes))
        (.ok (bytes ++ [v].flatMap (·.bytes))) := by
      refine Returns.step rfl ?_
      rw [lastBytes_eq hv, List.flatMap_singleton]
      exact Returns.pure _
    cases head <;> exact hone
  | f :: g :: tail =>
    have hshape : Layout.shape ⟨record, head, f :: g :: tail⟩ = .delimited := by cases head <;> rfl
    rw [hshape, frame, ← flatMap_lastBytes h]
    exact Returns.pure _

theorem encodeAt_returns (l : Layout) (values : List FieldValue) :
    Returns (encodeAt l values) (encode l values) := by
  have hcheck := checkTypesAt_returns l.fields values
  unfold encodeAt
  cases htypes : checkTypes l.fields values with
  | error fault =>
    rw [htypes] at hcheck
    rw [encode, htypes]
    exact Returns.bind_error hcheck
  | ok u =>
    rw [htypes] at hcheck
    obtain ⟨first, last, hvalues, hfirst, hlast⟩ :=
      map_type_fields_iff.mp (checkTypes_eq_ok_iff.mp htypes)
    have hlength : (l.head.map ofFixed).length = first.length := by
      rw [List.length_map, ← List.length_map (fun f : Named FixedType => FieldType.fixed f.type),
        ← hfirst, List.length_map]
    have hle : first.length ≤ values.length := by
      rw [hvalues, List.length_append]
      exact Nat.le_add_right _ _
    have hbytes := encode_eq_ok_iff.mpr ⟨first, last, hvalues, hfirst, hlast, rfl⟩
    rw [hbytes]
    refine Returns.bind_ok hcheck ?_
    refine Returns.step (fixedFields?_eq_some l) ?_
    rw [hlength]
    refine Returns.step (Checked.slice?_take hle) (Returns.step (Checked.slice?_drop hle) ?_)
    rw [hvalues, List.take_left, List.drop_left]
    refine Returns.step (mapM_scalarBytes? hfirst) ?_
    exact frameAt_returns hlast

end FsGateway.Wire.Raw
