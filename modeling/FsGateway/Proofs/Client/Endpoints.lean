import FsGateway.Client.Call
import FsGateway.Mount.Descriptor
import FsGateway.Proofs.Url.BelowFile

/-!
# Where operations are posted

Each operation has a path, which is appended to the target of its call.

* `endpoint_eq_ok_iff`: the URL of an operation.
* `operations_below_iff`: for which targets the operations go below the target.
-/

namespace FsGateway.Client

open Wire (Operation)
open Url (AreSteps IsSegment NoDots slashed)

variable {target : Url} {op : Operation}

/-! ## The path of an operation -/

/-- The segments of the path of an operation. -/
def stepsOf (op : Operation) : List (List Char) := ["v1".toList, op.name.toList]

theorem path_toList (op : Operation) : op.path.toList = slashed (stepsOf op) := by
  simp [Operation.path, slashed, stepsOf]

theorem areSteps (op : Operation) : AreSteps (stepsOf op) := by
  have hkept : ∀ op, ∀ step ∈ stepsOf op,
      step.all fun c => Url.EncodeSet.path.contains c = false := by decide
  have hslash : ∀ kind, ∀ op, ∀ step ∈ stepsOf op,
      step.all fun c => Url.isSlash kind c = false := by
    intro kind
    cases kind <;> decide
  have hdots : ∀ op, ∀ step ∈ stepsOf op,
      Url.dots step ≠ ['.'] ∧ Url.dots step ≠ ['.', '.'] := by decide
  have hempty : ∀ op, ∀ step ∈ stepsOf op, step ≠ [] := by decide
  have hdrive : ∀ op, ∀ step ∈ stepsOf op, Url.isDriveLetter step = false := by decide
  refine ⟨by simp [stepsOf], fun kind step hstep => ⟨⟨?_, ?_⟩, hdots op step hstep⟩, hempty op,
    hdrive op⟩
  · exact List.all_iff_forall_prop.mp (hkept op step hstep)
  · exact List.all_iff_forall_prop.mp (hslash kind op step hstep)

theorem path_injective {op op' : Operation} (h : op.path = op'.path) : op = op' := by
  refine Operation.name_injective op op' ?_
  simpa [Operation.path] using h

/-! ## Endpoints -/

theorem endpoint_eq_ok_iff {url : Url} :
    endpoint target op = .ok url ↔ target.append op.path = .ok url := by
  unfold endpoint
  split
  · rename_i place hplace
    rw [hplace]
    simp
  · rename_i fault hfault
    rw [hfault]
    simp

/-- Whether an operation on a target goes to a URL below the target. -/
def GoesBelow (target : Url) (op : Operation) : Prop :=
  ∃ url, endpoint target op = .ok url ∧ target.IsBelow op.path url

theorem goesBelow_iff : GoesBelow target op ↔ target.LeadsBelow op.path :=
  exists_congr fun _ => and_congr_left' endpoint_eq_ok_iff

/-- Below a target, operations go to different paths. -/
theorem eq_of_path_eq {op op' : Operation} {url url' : Url} (h : target.IsBelow op.path url)
    (h' : target.IsBelow op'.path url') (hpath : url.path.text = url'.path.text) : op = op' := by
  have htext := h.path.symm.trans ((congrArg String.toList hpath).trans h'.path)
  exact path_injective (String.toList_inj.mp (List.append_cancel_left htext))

/-- Behind a query or a fragment, all operations go to one path. -/
theorem path_eq_of_tail (h : target.Settled) (htail : target.query ≠ none ∨ target.fragment ≠ none)
    {op op' : Operation} {url url' : Url} (hurl : endpoint target op = .ok url)
    (hurl' : endpoint target op' = .ok url') : url.path = url'.path := by
  obtain ⟨place, hplace⟩ := Url.exists_path_of_append h htail
  rw [hplace (areSteps op) (path_toList op) (endpoint_eq_ok_iff.mp hurl),
    hplace (areSteps op') (path_toList op') (endpoint_eq_ok_iff.mp hurl')]

theorem goesBelow_iff_of_settled (h : target.Settled) :
    (∀ op, GoesBelow target op) ↔ target.query = none ∧ target.fragment = none ∧
      target.ReadsBack ∧ ¬target.EndsInSlashes := by
  refine ⟨fun hall => ?_, fun ⟨hquery, hfragment, hback⟩ op => ?_⟩
  · have hnone : ¬(target.query ≠ none ∨ target.fragment ≠ none) := by
      intro htail
      obtain ⟨url, hurl, hbelow⟩ := hall .getattr
      obtain ⟨url', hurl', hbelow'⟩ := hall .lookup
      have hpath := path_eq_of_tail h htail hurl hurl'
      cases eq_of_path_eq hbelow hbelow' (congrArg Url.Path.text hpath)
    obtain ⟨hquery, hfragment⟩ := not_or.mp hnone
    have hquery := not_not.mp hquery
    have hfragment := not_not.mp hfragment
    have hbelow := goesBelow_iff.mp (hall .getattr)
    exact ⟨hquery, hfragment,
      (Url.leadsBelow_iff h hquery hfragment (areSteps _) (path_toList _)).mp hbelow⟩
  · exact goesBelow_iff.mpr
      ((Url.leadsBelow_iff h hquery hfragment (areSteps op) (path_toList op)).mpr hback)

/-- The target of a descriptor that can be mounted was read from a text. -/
theorem settled_of_validate {d : Mount.Descriptor} (h : d.validate = .ok target) :
    target.Settled := by
  have htarget : d.targetUrl = .ok target := by
    unfold Mount.Descriptor.validate at h
    cases haccess : d.access with
    | error fault =>
      rw [haccess] at h
      cases h
    | ok access =>
      rw [haccess] at h
      exact h
  unfold Mount.Descriptor.targetUrl at htarget
  cases hparse : Url.parse d.target with
  | error fault =>
    rw [hparse] at htarget
    cases htarget
  | ok url =>
    rw [hparse] at htarget
    cases htarget
    exact Url.settled_of_parse hparse

theorem endpoint_of_request {s : Settings} {ctx : Context} {payload : op.Request} {r : Request}
    (h : request s ctx op payload = .ok r) : endpoint ctx.target op = .ok r.url := by
  unfold request at h
  cases hbody : s.encoding.encode op.requestLayout payload with
  | error fault =>
    rw [hbody] at h
    cases h
  | ok body =>
    cases hurl : endpoint ctx.target op with
    | error cause =>
      rw [hbody, hurl] at h
      cases h
    | ok url =>
      rw [hbody, hurl] at h
      cases h
      rfl

theorem goesBelow_iff_of_isPlain (h : target.Settled) (hplain : target.IsPlain) :
    (∀ op, GoesBelow target op) ↔
      target.query = none ∧ target.fragment = none ∧ ¬target.EndsInSlashes := by
  rw [goesBelow_iff_of_settled h]
  constructor
  · rintro ⟨hquery, hfragment, -, hends⟩
    exact ⟨hquery, hfragment, hends⟩
  · rintro ⟨hquery, hfragment, hends⟩
    exact ⟨hquery, hfragment, Url.readsBack_of_isPlain h hquery hfragment hplain, hends⟩

/-- For a target that can be mounted, every operation is posted below the target exactly where the
target has neither a query nor a fragment, is what its own text stands for, and does not lose an
empty authority with the slashes at its end. A plain target is what its own text stands for.
Different operations then go to different paths. Behind a query or a fragment all of them go to one
path. -/
theorem operations_below_iff {d : Mount.Descriptor} (h : d.validate = .ok target) :
    ((∀ op, GoesBelow target op) ↔ target.query = none ∧ target.fragment = none ∧
      target.ReadsBack ∧ ¬target.EndsInSlashes) ∧
    (target.IsPlain → ((∀ op, GoesBelow target op) ↔
      target.query = none ∧ target.fragment = none ∧ ¬target.EndsInSlashes)) ∧
    ((∀ op, GoesBelow target op) → ∀ op op' url url', endpoint target op = .ok url →
      endpoint target op' = .ok url' → url.path.text = url'.path.text → op = op') ∧
    (target.query ≠ none ∨ target.fragment ≠ none → ∀ op op' url url',
      endpoint target op = .ok url → endpoint target op' = .ok url' → url.path = url'.path) ∧
    ∀ s identity op payload r, request s ⟨target, identity⟩ op payload = .ok r →
      endpoint target op = .ok r.url := by
  have hsettled := settled_of_validate h
  refine ⟨goesBelow_iff_of_settled hsettled, goesBelow_iff_of_isPlain hsettled, ?_, ?_, ?_⟩
  · intro hall op op' url url' hurl hurl' hpath
    obtain ⟨place, hplace, hbelow⟩ := hall op
    obtain ⟨place', hplace', hbelow'⟩ := hall op'
    cases hurl.symm.trans hplace
    cases hurl'.symm.trans hplace'
    exact eq_of_path_eq hbelow hbelow' hpath
  · exact fun htail op op' url url' hurl hurl' => path_eq_of_tail hsettled htail hurl hurl'
  · intro s identity op payload r hrequest
    have hurl := endpoint_of_request hrequest
    exact hurl

/-- A target with a base path and a slash at its end. -/
def based : Mount.Descriptor := { point := ⟨"/mnt"⟩, target := "http://backend:8080/fs/" }

theorem operations_below_based :
    ∃ target, based.validate = .ok target ∧ target.IsPlain ∧ ∀ op, GoesBelow target op := by
  have hvalid : based.validate = .ok ⟨"http", some ⟨"", "", .name "backend", some 8080⟩,
      .segments ["fs", ""], none, none⟩ := by decide +kernel
  have hname : Url.Domain.IsPlain "backend".toList :=
    ⟨List.all_iff_forall_prop.mp (by decide), List.all_iff_forall_prop.mp (by decide)⟩
  have hplain : Url.IsPlain ⟨"http", some ⟨"", "", .name "backend", some 8080⟩,
      .segments ["fs", ""], none, none⟩ := ⟨by decide, fun a ha _ => by cases ha; exact hname⟩
  refine ⟨_, hvalid, hplain, ((operations_below_iff hvalid).2.1 hplain).mpr ⟨rfl, rfl, ?_⟩⟩
  exact fun hends => absurd hends.1 (by decide)

/-- A target with a query. -/
def queried : Mount.Descriptor := { point := ⟨"/mnt"⟩, target := "http://backend/fs?v=1" }

/-- Not every target that can be mounted has all operations below it. -/
theorem not_operations_below : ¬∀ (d : Mount.Descriptor) (target : Url) (op : Operation),
    d.validate = .ok target → GoesBelow target op := by
  intro hall
  have hvalid : queried.validate = .ok ⟨"http", some ⟨"", "", .name "backend", none⟩,
      .segments ["fs"], some "v=1", none⟩ := by decide +kernel
  obtain ⟨url, hurl, hbelow⟩ := hall queried _ .getattr hvalid
  have hposted : endpoint ⟨"http", some ⟨"", "", .name "backend", none⟩, .segments ["fs"],
      some "v=1", none⟩ .getattr = .ok ⟨"http", some ⟨"", "", .name "backend", none⟩,
        .segments ["fs"], some "v=1/v1/getattr", none⟩ := by
    rw [endpoint_eq_ok_iff]
    decide +kernel
  cases hurl.symm.trans hposted
  exact absurd hbelow.query (by decide)

end FsGateway.Client
