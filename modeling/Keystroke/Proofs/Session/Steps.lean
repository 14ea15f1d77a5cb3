import Keystroke.Proofs.Backend.Deeds
import Keystroke.Session
import Mathlib.Data.List.Basic

/-!
What a step of a session comes to.

* `Recorder.deed`, `Recorder.after`: what sending a request to a recorder comes to, which its mode
  decides, and the recorder that deeds leave (`Recorder.send_eq`);
* `Step.requests`, `Reply.results`, `Entry.delivered`: the requests that a step sends, what a reply
  says became of them, and those that were posted;
* `Session.answer`: the answer to a step on a recorder.  `answer_calls`, `answer_logs`,
  `answer_recorder` and `results_answer` say that a step does the deeds of its requests, and are all
  that is said about what steps do;
* `step_of_getElem?`, `steps_append`: a step and a list of steps of a session, through the answers;
* `exists_steps_iff`: steps are answered exactly if each is addressed to a keyboard that is there.
-/

namespace Keystroke

/-! ### Sending to a recorder -/

namespace Recorder

/-- The event of a request. -/
def Event.of (r : Request) : Event :=
  ⟨r.key, r.direction, some r.character⟩

/-- What sending a request to a recorder of the given mode comes to. -/
def deed (mode : Mode) (r : Request) : Deed Event :=
  match mode.refusal? r.key r.direction with
  | some e => .refused r e
  | none => .posted r ⟨r.key, r.direction, none⟩ (.of r) "recording"

/-- Whether a recorder of the given mode posts the event of a request. -/
def Mode.accepts (mode : Mode) (r : Request) : Bool :=
  (mode.refusal? r.key r.direction).isNone

/-- The recorder that deeds leave: each counts as an attempt, and what was posted is kept. -/
def after (s : Recorder) (ds : List (Deed Event)) : Recorder :=
  { s with attempts := s.attempts + ds.length, posted := s.posted ++ ds.filterMap Deed.event? }

@[simp]
lemma after_nil (s : Recorder) : s.after [] = s := by
  simp [after]

@[simp]
lemma after_mode (s : Recorder) (ds : List (Deed Event)) : (s.after ds).mode = s.mode := rfl

@[simp]
lemma after_with_mode (s : Recorder) (ds : List (Deed Event)) :
    { s.after ds with mode := s.mode } = s.after ds := rfl

@[simp]
lemma after_after (s : Recorder) (ds ds' : List (Deed Event)) :
    (s.after ds).after ds' = s.after (ds ++ ds') := by
  simp [after, Nat.add_assoc]

/-- Sending a request does its deed. -/
lemma send_eq (r : Request) (t : Session.Run) :
    backend.send r t =
      ((deed t.state.mode r).answer,
        ⟨t.state.after [deed t.state.mode r], t.calls ++ (deed t.state.mode r).calls,
          t.logs ++ (deed t.state.mode r).logs⟩) := by
  cases h : t.state.mode.refusal? r.key r.direction with
  | some e =>
      simp only [Backend.send, Backend.callCreate, backend, create, h, deed, after]
      simp [Deed.answer, Deed.calls, Deed.logs, Deed.event?, Trace.call]
  | none =>
      simp only [Backend.send, Backend.callCreate, Backend.callAttach, Backend.callPost, backend,
        create, h, deed, after]
      simp [Deed.answer, Deed.calls, Deed.logs, Deed.event?, Event.of, Trace.call, Trace.log,
        Log.posted, Log.requestFields]

section Deeds

variable (mode : Mode) (r : Request)

@[simp]
lemma request_deed : (deed mode r).request = r := by
  rw [deed]
  split <;> rfl

@[simp]
lemma isOk_answer_deed : (deed mode r).answer.isOk = mode.accepts r := by
  rw [deed, Mode.accepts]
  cases mode.refusal? r.key r.direction <;> rfl

variable {mode r} in
lemma answer_of_accepts (h : mode.accepts r = true) : (deed mode r).answer = .ok () := by
  rw [← isOk_answer_deed] at h
  cases ha : (deed mode r).answer with
  | ok u => rfl
  | error e => simp [ha, Except.isOk, Except.toBool] at h

variable {mode r} in
lemma exists_answer_of_not_accepts (h : mode.accepts r = false) :
    ∃ e, (deed mode r).answer = .error e := by
  rw [← isOk_answer_deed] at h
  cases ha : (deed mode r).answer with
  | ok u => simp [ha, Except.isOk, Except.toBool] at h
  | error e => exact ⟨e, rfl⟩

lemma event?_deed : (deed mode r).event? = if mode.accepts r then some (.of r) else none := by
  rw [deed, Mode.accepts]
  cases mode.refusal? r.key r.direction <;> rfl

/-- What only requests accepted give, one by one, is given by these. -/
lemma flatMap_of_accepts {β : Type} {f : Request → List β} {g : Request → β}
    (hf : ∀ r, f r = if mode.accepts r then [g r] else []) (rs : List Request) :
    rs.flatMap f = (rs.filter mode.accepts).map g := by
  induction rs with
  | nil => rfl
  | cons r rs ih =>
      rw [List.flatMap_cons, ih, hf, List.filter_cons]
      cases mode.accepts r <;> rfl

/-- The events posted are those of the requests accepted. -/
lemma filterMap_event?_deed (rs : List Request) :
    (rs.filterMap fun r => (deed mode r).event?) = (rs.filter mode.accepts).map .of := by
  rw [List.filterMap_eq_flatMap_toList]
  refine flatMap_of_accepts mode (fun r => ?_) rs
  rw [event?_deed]
  cases mode.accepts r <;> rfl

end Deeds

end Recorder

namespace Session

open Recorder (Mode Event deed)

/-! ### Steps and replies -/

/-- The requests that a step sends, in order. -/
def Step.requests : Step → List Request
  | .send r => [r]
  | .sendByKeyboard r => [r]
  | .press character key => [.down character key, (Request.down character key).lifted]
  | .sendJson json =>
      match Request.ofJson json with
      | .ok r => [r]
      | .error _ => []
  | _ => []

/-- The mode that a step leaves. -/
def Step.leaves (mode : Mode) : Step → Mode
  | .mode m => m
  | _ => mode

/-- The number of keyboards that a step makes. -/
def Step.makes : Step → Nat
  | .copy => 1
  | .fresh => 1
  | _ => 0

/-- What a reply says became of the requests sent, in order. -/
def Reply.results : Reply → List (Except PostError Unit)
  | .outcome o => [o]
  | .outcomes down up => [down, up]
  | _ => []

lemma length_added (s : Step) (r : Recorder) : (added s r).length = s.makes := by
  cases s <;> rfl

/-- The answer to a step on a recorder, with `count` keyboards in the session. -/
def answer (count : Nat) (s : Step) (r : Recorder) : Answer :=
  ⟨(run count s { state := r }).1, (run count s { state := r }).2.calls,
    (run count s { state := r }).2.logs, (run count s { state := r }).2.state⟩

/-- What the requests of a step come to on a recorder of the given mode. -/
def Step.deeds (mode : Mode) (s : Step) : List (Deed Event) :=
  s.requests.map (deed mode)

section Answer

variable (count : Nat) (s : Step) (r : Recorder)

/-- A step does the deeds of its requests, and may set the mode. -/
lemma run_snd_eq :
    (run count s { state := r }).2 =
      ⟨{ r.after (s.deeds r.mode) with mode := s.leaves r.mode },
        (s.deeds r.mode).flatMap Deed.calls, (s.deeds r.mode).flatMap Deed.logs⟩ := by
  cases s with
  | send q | sendByKeyboard q =>
      simp [run, runSend, Backend.keyboard, Recorder.send_eq, Step.deeds, Step.requests,
        Step.leaves]
  | press character key =>
      simp [run, runPress, Recorder.send_eq, Step.deeds, Step.requests, Step.leaves]
  | sendJson json =>
      simp only [run, Step.deeds, Step.requests]
      cases Request.ofJson json with
      | ok q => simp [runSend, Recorder.send_eq, Step.leaves]
      | error e => simp [Step.leaves]
  | name | mode m | posted | copy | fresh =>
      simp [run, Step.deeds, Step.requests, Step.leaves]

@[simp]
lemma answer_calls : (answer count s r).calls = (s.deeds r.mode).flatMap Deed.calls := by
  simp only [answer, run_snd_eq]

@[simp]
lemma answer_logs : (answer count s r).logs = (s.deeds r.mode).flatMap Deed.logs := by
  simp only [answer, run_snd_eq]

@[simp]
lemma answer_recorder :
    (answer count s r).recorder =
      { r.after (s.deeds r.mode) with mode := s.leaves r.mode } := by
  simp only [answer, run_snd_eq]

@[simp]
lemma reply_send (q : Request) :
    (answer count (.send q) r).reply = .outcome (deed r.mode q).answer := by
  simp [answer, run, runSend, Recorder.send_eq]

@[simp]
lemma reply_sendByKeyboard (q : Request) :
    (answer count (.sendByKeyboard q) r).reply = .outcome (deed r.mode q).answer := by
  simp [answer, run, Backend.keyboard, Recorder.send_eq]

@[simp]
lemma reply_press (character key : Code) :
    (answer count (.press character key) r).reply =
      .outcomes (deed r.mode (.down character key)).answer
        (deed r.mode (.up character key)).answer := by
  simp [answer, run, runPress, Recorder.send_eq]

lemma reply_sendJson_of_ok {json : String} {q : Request} (h : Request.ofJson json = .ok q) :
    (answer count (.sendJson json) r).reply = .outcome (deed r.mode q).answer := by
  simp [answer, run, h, runSend, Recorder.send_eq]

lemma reply_sendJson_of_error {json : String} {e : Json.Error}
    (h : Request.ofJson json = .error e) :
    (answer count (.sendJson json) r).reply = .unreadable e := by
  simp [answer, run, h]

/-- The reply says what became of each request. -/
@[simp]
lemma results_answer :
    (answer count s r).reply.results = (s.deeds r.mode).map Deed.answer := by
  cases s with
  | send | sendByKeyboard | press => simp [Step.deeds, Step.requests, Reply.results]
  | sendJson json =>
      cases h : Request.ofJson json with
      | ok q => simp [reply_sendJson_of_ok _ _ h, Step.deeds, Step.requests, h, Reply.results]
      | error e => simp [reply_sendJson_of_error _ _ h, Step.deeds, Step.requests, h, Reply.results]
  | name | mode | posted | copy | fresh => rfl

/-- A step posts the events of the requests that are accepted. -/
lemma filterMap_posted?_answer :
    (answer count s r).calls.filterMap Call.posted? =
      (s.requests.filter r.mode.accepts).map .of := by
  rw [answer_calls, Call.filterMap_posted?, Step.deeds, List.filterMap_map]
  exact Recorder.filterMap_event?_deed r.mode s.requests

lemma posted_answer :
    (answer count s r).recorder.posted =
      r.posted ++ (s.requests.filter r.mode.accepts).map .of := by
  rw [← filterMap_posted?_answer count s r, answer_calls, Call.filterMap_posted?, answer_recorder]
  rfl

end Answer

/-! ### Entries -/

/-- A step and the answer to it. -/
structure Entry where
  step : Step
  answer : Answer

/-- The requests of a step that were answered with success. -/
def Entry.delivered (e : Entry) : List Request :=
  ((e.step.requests.zip e.answer.reply.results).filter fun p => p.2.isOk).map Prod.fst

/-- The requests delivered are those that the recorder accepts. -/
lemma delivered_answer (count : Nat) (s : Step) (r : Recorder) :
    Entry.delivered ⟨s, answer count s r⟩ = s.requests.filter r.mode.accepts := by
  simp only [Entry.delivered, results_answer, Step.deeds, List.map_map]
  induction s.requests with
  | nil => rfl
  | cons q rs ih => cases h : r.mode.accepts q <;> simp_all

/-- The steps of a session, each with the keyboard it is addressed to and the answer to it. -/
def entries (l : List (Nat × Step)) (answers : List Answer) : List (Nat × Entry) :=
  l.zipWith (fun p a => (p.1, ⟨p.2, a⟩)) answers

/-! ### Steps of a session -/

variable {session session' : Session}

lemma step_of_getElem? {on : Nat} {r : Recorder} (h : session.recorders[on]? = some r) (s : Step) :
    session.step on s =
      some (answer session.recorders.length s r,
        ⟨session.recorders.set on (answer session.recorders.length s r).recorder ++
          added s (answer session.recorders.length s r).recorder⟩) := by
  simp only [step, h, answer]

/-- A step is answered by the recorder it is addressed to, which alone it may change. -/
lemma exists_of_step {on : Nat} {s : Step} {a : Answer} (h : session.step on s = some (a, session')) :
    ∃ r, session.recorders[on]? = some r ∧ a = answer session.recorders.length s r ∧
      session' = ⟨session.recorders.set on a.recorder ++ added s a.recorder⟩ := by
  cases hr : session.recorders[on]? with
  | none => simp [step, hr] at h
  | some r =>
      rw [step_of_getElem? hr, Option.some_inj, Prod.mk.injEq] at h
      obtain ⟨rfl, rfl⟩ := h
      exact ⟨r, rfl, rfl, rfl⟩

lemma steps_cons (on : Nat) (s : Step) (rest : List (Nat × Step)) :
    session.steps ((on, s) :: rest) =
      (session.step on s).bind fun p => (p.2.steps rest).map fun q => (p.1 :: q.1, q.2) := by
  rw [steps]
  cases session.step on s with
  | none => rfl
  | some p => cases h : p.2.steps rest <;> simp [h]

/-- Steps that follow others are answered from where those have led. -/
lemma steps_append (l l' : List (Nat × Step)) :
    session.steps (l ++ l') =
      (session.steps l).bind fun p => (p.2.steps l').map fun q => (p.1 ++ q.1, q.2) := by
  induction l generalizing session with
  | nil =>
      simp only [List.nil_append, steps, Option.bind_some]
      cases session.steps l' <;> rfl
  | cons p l ih =>
      obtain ⟨on, s⟩ := p
      simp only [List.cons_append, steps_cons, ih]
      cases session.step on s with
      | none => rfl
      | some p => cases h : p.2.steps l <;> simp [h, Function.comp_def]

/-- One more step after others. -/
lemma steps_concat {l : List (Nat × Step)} {on : Nat} {s : Step} {answers : List Answer}
    {a : Answer} {session₁ session₂ : Session} (h : session.steps l = some (answers, session₁))
    (hs : session₁.step on s = some (a, session₂)) :
    session.steps (l ++ [(on, s)]) = some (answers ++ [a], session₂) := by
  rw [steps_append, h, Option.bind_some, steps_cons, hs]
  rfl

/-- A list of steps is taken apart into its first step and the others. -/
lemma exists_of_steps_cons {on : Nat} {s : Step} {rest : List (Nat × Step)} {answers : List Answer}
    (h : session.steps ((on, s) :: rest) = some (answers, session')) :
    ∃ a session₁ answers', session.step on s = some (a, session₁) ∧
      session₁.steps rest = some (answers', session') ∧ answers = a :: answers' := by
  rw [steps_cons, Option.bind_eq_some_iff] at h
  obtain ⟨⟨a, session₁⟩, hstep, h⟩ := h
  obtain ⟨⟨answers', session₂⟩, hrest, h⟩ := Option.map_eq_some_iff.mp h
  obtain ⟨rfl, rfl⟩ := Prod.mk.inj h
  exact ⟨a, session₁, answers', hstep, hrest, rfl⟩

lemma length_of_steps {l : List (Nat × Step)} {answers : List Answer}
    (h : session.steps l = some (answers, session')) : answers.length = l.length := by
  induction l generalizing session answers with
  | nil =>
      obtain ⟨rfl, -⟩ : [] = answers ∧ session = session' := by simpa [steps] using h
      rfl
  | cons p rest ih =>
      obtain ⟨a, session₁, answers', -, hrest, rfl⟩ := exists_of_steps_cons h
      rw [List.length_cons, List.length_cons, ih hrest]

/-- Each answer is that of some recorder. -/
lemma exists_answer_of_mem_entries {l : List (Nat × Step)} {answers : List Answer}
    (h : session.steps l = some (answers, session')) {p : Nat × Entry} (hp : p ∈ entries l answers) :
    ∃ count s r, p.2 = ⟨s, answer count s r⟩ := by
  induction l generalizing session answers with
  | nil => simp [entries] at hp
  | cons q rest ih =>
      obtain ⟨a, session₁, answers', hstep, hrest, rfl⟩ := exists_of_steps_cons h
      rw [entries, List.zipWith_cons_cons, List.mem_cons] at hp
      rcases hp with rfl | hp
      · obtain ⟨r, -, rfl, -⟩ := exists_of_step hstep
        exact ⟨_, _, _, rfl⟩
      · exact ih hrest hp

/-- Every step is addressed to a keyboard that is there by then, `count` of them at first. -/
def Addressed : Nat → List (Nat × Step) → Prop
  | _, [] => True
  | count, (on, s) :: rest => on < count ∧ Addressed (count + s.makes) rest

/-- Steps are answered exactly if each is addressed to a keyboard that is there. -/
lemma exists_steps_iff {l : List (Nat × Step)} :
    (∃ answers session', session.steps l = some (answers, session')) ↔
      Addressed session.recorders.length l := by
  induction l generalizing session with
  | nil => exact ⟨fun _ => trivial, fun _ => ⟨[], session, rfl⟩⟩
  | cons p rest ih =>
      obtain ⟨on, s⟩ := p
      constructor
      · rintro ⟨answers, session', h⟩
        obtain ⟨a, session₁, answers', hstep, hrest, -⟩ := exists_of_steps_cons h
        obtain ⟨r, hr, -, rfl⟩ := exists_of_step hstep
        have := ih.mp ⟨_, _, hrest⟩
        rw [List.length_append, List.length_set, length_added] at this
        exact ⟨(List.getElem?_eq_some_iff.mp hr).1, this⟩
      · rintro ⟨hon, hrest⟩
        have hr : session.recorders[on]? = some session.recorders[on] := List.getElem?_eq_getElem hon
        have hstep := step_of_getElem? hr s
        generalize answer session.recorders.length s session.recorders[on] = a at hstep
        have hnext : Addressed
            (Session.mk (session.recorders.set on a.recorder ++ added s a.recorder)).recorders.length
            rest := by
          rwa [List.length_append, List.length_set, length_added]
        obtain ⟨answers, session', h⟩ := ih.mpr hnext
        exact ⟨a :: answers, session', by rw [steps_cons, hstep, Option.bind_some, h]; rfl⟩

end Session

end Keystroke
