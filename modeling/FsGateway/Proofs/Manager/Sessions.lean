import FsGateway.Proofs.Manager.Ownership

/-!
# The connections of a manager

The manager serves each session with a connection of its own. What happens to one connection is up
to the kernel, the backend and the workers of this connection, the clock, and the operation that
stops its session; what happens to the others is not seen.

* `history`: what happens to the connection of one session in the course of the manager's events.
* `step_session`, `run_session`: a connection goes through its own history and nothing else.
* `AttachedBetween`, `exists_attachedBetween`: each session is attached by an event.
* `AttachedBetween.run_own`: so each connection of a manager is one that has run on its own.
-/

namespace FsGateway.Gateway.Manager

open Mount (FileSystem)

variable {σ : Type} {fs : FileSystem σ} {s : Setup} {m m' m₁ : Manager σ} {task : TaskId}
  {e : ManagerEvent} {old : Option Task} {next : Next} {i : SessionId} {l : Live}

/-- What an event of the manager is for the connection of a session. -/
def happened (m : Manager σ) (i : SessionId) : ManagerEvent → List Event
  | .session j e => if j = i then [e] else []
  | .returned task _ =>
    match m.task? task with
    | some (.detaching j _) => if j = i then [.shutDown] else []
    | _ => []
  | .elapse duration => [.elapse duration]
  | _ => []

/-- What the events of the manager are for the connection of a session. -/
def history (fs : FileSystem σ) (s : Setup) (i : SessionId) : Manager σ → List ManagerEvent →
    List Event
  | _, [] => []
  | m, e :: events => m.happened i e ++ ((m.step fs s e).map (history fs s i · events)).getD []

/-- The connection of a session goes through some events, and the session stays as it is otherwise. -/
def Lives (i : SessionId) (l : Live) (m' : Manager σ) (events : List Event) : Prop :=
  ∃ k, l.connection.run l.settings events = some k ∧ m'.sessions[i]? = some { l with connection := k }

theorem Lives.of_same (hl : m.sessions[i]? = some l) (h : m'.sessions = m.sessions) :
    Lives i l m' [] :=
  ⟨l.connection, rfl, by rw [h, hl]⟩

/-- The connection of one session makes a step. -/
theorem lives_set {j : SessionId} {l' : Live} {e : Event} {k : Connection}
    (hl : m.sessions[i]? = some l) (hl' : m.sessions[j]? = some l')
    (hk : l'.connection.step l'.settings e = some k)
    (h : m'.sessions = m.sessions.set j { l' with connection := k }) :
    Lives i l m' (if j = i then [e] else []) := by
  obtain ⟨hj, -⟩ := List.getElem?_eq_some_iff.mp hl'
  by_cases hij : j = i
  · subst hij
    cases hl.symm.trans hl'
    rw [if_pos rfl]
    refine ⟨k, ?_, ?_⟩
    · simpa [Connection.run] using hk
    · rw [h, List.getElem?_set_self hj]
  · rw [if_neg hij]
    exact ⟨l.connection, rfl, by rw [h, List.getElem?_set_ne hij, hl]⟩

theorem Turn.lives (h : Turn fs s m task e old m₁ next)
    (hold : ∀ result, e = .returned task result → m.task? task = old)
    (hl : m.sessions[i]? = some l) : Lives i l m₁ (m.happened i e) := by
  cases h with
  | refused hstarts hbars =>
    cases hstarts with
    | mount => exact .of_same hl rfl
    | restore result =>
      rw [happened, hold result rfl]
      exact .of_same hl rfl
  | reserved hstarts hvalid hfree =>
    cases hstarts with
    | mount => exact .of_same hl rfl
    | restore result =>
      rw [happened, hold result rfl]
      exact .of_same hl rfl
  | attached =>
    rw [happened, hold _ rfl]
    obtain ⟨hi, -⟩ := List.getElem?_eq_some_iff.mp hl
    exact ⟨l.connection, rfl, (List.getElem?_append_left hi).trans hl⟩
  | released =>
    rw [happened, hold _ rfl]
    exact .of_same hl rfl
  | listed => exact .of_same hl saveMounts_sessions
  | relisted hrest => exact .of_same hl hrest.frame.2.1
  | loaded htable hload hrest => exact .of_same hl hrest.frame.2.1
  | notLoaded r => exact .of_same hl rfl
  | notMounted hslot => exact .of_same hl rfl
  | takenOut hslot hlive => exact .of_same hl rfl
  | allTakenOut => exact .of_same hl rfl
  | picked hmem hlive => exact .of_same hl rfl
  | detached hlive hk =>
    rw [happened, hold _ rfl]
    exact lives_set hl hlive hk rfl
  | joined hlive hphase => exact .of_same hl rfl
  | saved => exact .of_same hl saveMounts_sessions

/-- An event of the manager does to the connection of a session what it is for this connection. -/
theorem step_session (h : m.step fs s e = some m') (hl : m.sessions[i]? = some l) :
    Lives i l m' (m.happened i e) := by
  cases step_effect h with
  | @begun e task m₁ next hfresh hturn =>
    have hnew : ∀ result, e = .returned task result →
        ({ m with fresh := task + 1 } : Manager σ).task? task = none := by
      rintro result rfl
      cases hturn with
      | refused hstarts _ => cases hstarts
      | reserved hstarts _ _ => cases hstarts
    obtain ⟨k, hk, hk'⟩ := hturn.lives hnew hl
    exact ⟨k, hk, by rw [put_sessions, hk']⟩
  | @resumed e task old m₁ next hold hturn =>
    obtain ⟨k, hk, hk'⟩ := hturn.lives (fun _ _ => hold) hl
    exact ⟨k, hk, by rw [put_sessions, hk']⟩
  | session hfree hlive hk => exact lives_set hl hlive hk rfl
  | elapsed duration => exact ⟨_, rfl, by simp [hl]⟩

theorem history_cons (hstep : m.step fs s e = some m') (events : List ManagerEvent) :
    history fs s i m (e :: events) = m.happened i e ++ history fs s i m' events := by
  rw [history, hstep]
  rfl

/-- In the course of a run, the connection of a session goes through its own history. -/
theorem run_session {events : List ManagerEvent} (h : m.run fs s events = some m')
    (hl : m.sessions[i]? = some l) : Lives i l m' (history fs s i m events) := by
  induction events generalizing m l with
  | nil =>
    cases h
    exact .of_same hl rfl
  | cons e events ih =>
    obtain ⟨m₁, hstep, hrest⟩ := Run.foldlM_cons_eq_some h
    obtain ⟨k₁, hk₁, hl₁⟩ := step_session hstep hl
    obtain ⟨k, hk, hl'⟩ := ih hrest hl₁
    refine ⟨k, ?_, hl'⟩
    rw [history_cons hstep]
    exact Run.foldlM_append_of hk₁ hk

/-- What happens to the connection of one session leaves all others as they are. -/
theorem step_session_eq_some {j : SessionId} {e : Event} (h : m.step fs s (.session j e) = some m') :
    (∃ l k, m.sessions[j]? = some l ∧ l.connection.step l.settings e = some k ∧
      m'.sessions[j]? = some { l with connection := k }) ∧
    ∀ i, i ≠ j → m'.sessions[i]? = m.sessions[i]? := by
  simp only [step] at h
  split at h
  · obtain ⟨l, k, hl, hk, rfl⟩ := stepSession_eq_some h
    obtain ⟨hj, -⟩ := List.getElem?_eq_some_iff.mp hl
    exact ⟨⟨l, k, hl, hk, List.getElem?_set_self hj⟩,
      fun i hij => List.getElem?_set_ne (Ne.symm hij)⟩
  · cases h

/-! ## Sessions that are attached -/

/-- A session that was not there before has a connection that does not serve yet. -/
theorem Turn.born (h : Turn fs s m task e old m₁ next) (hi : m.sessions.length ≤ i)
    (hl : m₁.sessions[i]? = some l) : i = m.sessions.length ∧ l.connection = .ofInstant m.now := by
  have hnone : m₁.sessions.length = m.sessions.length → i = m.sessions.length ∧
      l.connection = .ofInstant m.now := by
    intro hlength
    have hlt := (List.getElem?_eq_some_iff.mp hl).1
    omega
  cases h with
  | @attached d target purpose =>
    change (m.sessions ++ [_])[i]? = some l at hl
    have hlt := (List.getElem?_eq_some_iff.mp hl).1
    rw [List.length_append, List.length_singleton] at hlt
    have heq : i = m.sessions.length := Nat.le_antisymm (Nat.le_of_lt_succ hlt) hi
    subst heq
    rw [List.getElem?_concat_length] at hl
    cases hl
    exact ⟨rfl, rfl⟩
  | detached hlive hk => exact hnone (List.length_set ..)
  | relisted hrest => exact hnone (congrArg List.length hrest.frame.2.1)
  | loaded htable hload hrest => exact hnone (congrArg List.length hrest.frame.2.1)
  | listed | saved => exact hnone (congrArg List.length saveMounts_sessions)
  | _ => exact hnone rfl

theorem step_born (h : m.step fs s e = some m') (hi : m.sessions.length ≤ i)
    (hl : m'.sessions[i]? = some l) : i = m.sessions.length ∧ l.connection = .ofInstant m.now := by
  cases step_effect h with
  | begun hfresh hturn =>
    rw [put_sessions] at hl
    exact hturn.born hi hl
  | resumed hold hturn =>
    rw [put_sessions] at hl
    exact hturn.born hi hl
  | session hfree hlive hk =>
    have hlt := (List.getElem?_eq_some_iff.mp hl).1
    rw [List.length_set] at hlt
    omega
  | elapsed duration =>
    have hlt := (List.getElem?_eq_some_iff.mp hl).1
    rw [List.length_map] at hlt
    omega

/-- An event of a run attaches a session: there are `i` sessions before it and more after it. These are
the manager before and after the event, and the events that follow. -/
structure AttachedBetween (fs : FileSystem σ) (s : Setup) (m : Manager σ) (events : List ManagerEvent)
    (i : SessionId) (m₁ m₂ : Manager σ) (after : List ManagerEvent) : Prop where
  event : ∃ before e, events = before ++ e :: after ∧ m.run fs s before = some m₁ ∧
    m₁.step fs s e = some m₂
  absent : m₁.sessions.length = i
  present : i < m₂.sessions.length

/-- A session that is there after a run and was not before was attached by an event of the run. -/
theorem exists_attachedBetween {events : List ManagerEvent} (h : m.run fs s events = some m')
    (hi : m.sessions.length ≤ i) (hl : m'.sessions[i]? = some l) :
    ∃ m₁ m₂ after, AttachedBetween fs s m events i m₁ m₂ after := by
  have hlt := (List.getElem?_eq_some_iff.mp hl).1
  induction events generalizing m with
  | nil =>
    cases h
    omega
  | cons e events ih =>
    obtain ⟨m₁, hstep, hrest⟩ := Run.foldlM_cons_eq_some h
    by_cases hi₁ : m₁.sessions.length ≤ i
    · obtain ⟨m₂, m₃, after, ⟨before, e', rfl, hbefore, hattach⟩, habsent, hpresent⟩ := ih hrest hi₁
      refine ⟨m₂, m₃, after, ⟨e :: before, e', rfl, ?_, hattach⟩, habsent, hpresent⟩
      rw [run, List.foldlM_cons, hstep]
      exact hbefore
    · have hpresent := Nat.lt_of_not_le hi₁
      obtain ⟨hnew, -⟩ := step_born hstep hi (List.getElem?_eq_getElem hpresent)
      exact ⟨m, m₁, events, ⟨[], e, rfl, rfl, hstep⟩, hnew.symm, hpresent⟩

/-- From the event on that attaches a session, its connection has run on its own. -/
theorem AttachedBetween.run_own {events after : List ManagerEvent} {m₂ : Manager σ}
    (ha : AttachedBetween fs s m events i m₁ m₂ after) (h : m.run fs s events = some m')
    (hl : m'.sessions[i]? = some l) :
    (Connection.ofInstant m₁.now).run l.settings (history fs s i m₂ after) = some l.connection := by
  obtain ⟨⟨before, e, rfl, hbefore, hattach⟩, habsent, hpresent⟩ := ha
  have hl₂ := List.getElem?_eq_getElem hpresent
  obtain ⟨-, hborn⟩ := step_born hattach (Nat.le_of_eq habsent) hl₂
  obtain ⟨k, hk, hl'⟩ := run_session (Run.foldlM_rest hbefore hattach h) hl₂
  cases hl.symm.trans hl'
  rw [← hborn]
  exact hk

end FsGateway.Gateway.Manager
