import Keystroke.Proofs.Session.Steps
import Mathlib.Data.List.Forall2

/-!
Characters do not bear on which keys are pressed.

* `Request.bare` and so on down to `Session.bare`: what is left when every character is nought;
* `deed_bare`: leaving characters out of a deed is leaving them out of its request, since no mode
  looks at them;
* `Step.Alike`: steps that differ in characters only;
* `Entry.Shows`: the characters that a step attaches and logs are those of its own requests;
* `steps_bare_eq`: steps that differ in characters only are answered alike but for characters.
-/

namespace Keystroke

/-! ### Leaving characters out -/

/-- A request without its character. -/
def Request.bare (r : Request) : Request :=
  { r with character := 0 }

namespace Recorder

/-- An event without the character attached to it, if there is one. -/
def Event.bare (e : Event) : Event :=
  { e with character := e.character.map fun _ => 0 }

/-- A recorder without the characters of the events it posted. -/
def bare (s : Recorder) : Recorder :=
  { s with posted := s.posted.map Event.bare }

end Recorder

open Recorder (Mode Event deed)

/-- A call without characters. -/
def Call.bare : Call Event → Call Event
  | create key direction => create key direction
  | attach event _ => attach event.bare 0
  | post event => post event.bare

/-- The character that a call attaches. -/
def Call.attached? : Call Event → Option Code
  | attach _ character => some character
  | _ => none

/-- A log record without the character in it. -/
def Log.bare (l : Log) : Log :=
  { l with fields := l.fields.map fun f => if f.1 = "character_code" then (f.1, .number 0) else f }

/-- A deed without characters. -/
def Deed.bare : Deed Event → Deed Event
  | refused r e => refused r.bare e
  | posted r made attached name => posted r.bare made.bare attached.bare name

namespace Deed

@[simp]
lemma answer_bare (d : Deed Event) : d.bare.answer = d.answer := by
  cases d <;> rfl

@[simp]
lemma event?_bare (d : Deed Event) : d.bare.event? = d.event?.map Event.bare := by
  cases d <;> rfl

lemma calls_bare (d : Deed Event) : d.bare.calls = d.calls.map Call.bare := by
  cases d <;> rfl

lemma logs_bare (d : Deed Event) : d.bare.logs = d.logs.map Log.bare := by
  cases d with
  | refused r e => rfl
  | posted r made attached name => simp [Deed.bare, Deed.logs, Log.bare, Request.bare]

end Deed

namespace Recorder

/-- No mode looks at characters. -/
lemma deed_bare (mode : Mode) (r : Request) : (deed mode r).bare = deed mode r.bare := by
  have hr : mode.refusal? r.bare.key r.bare.direction = mode.refusal? r.key r.direction := rfl
  rw [deed, deed, hr]
  cases mode.refusal? r.key r.direction <;> rfl

lemma answer_deed_eq {r r' : Request} (h : r.bare = r'.bare) (mode : Mode) :
    (deed mode r).answer = (deed mode r').answer := by
  rw [← Deed.answer_bare, deed_bare, h, ← deed_bare, Deed.answer_bare]

lemma bare_after (s : Recorder) (ds : List (Deed Event)) :
    (s.after ds).bare = s.bare.after (ds.map Deed.bare) := by
  simp [after, bare, List.filterMap_map, List.map_filterMap]

section Deeds

variable (mode : Mode) (rs : List Request)

/-- The characters attached are those of the requests accepted. -/
lemma filterMap_attached?_deed :
    ((rs.map (deed mode)).flatMap Deed.calls).filterMap Call.attached? =
      (rs.filter mode.accepts).map Request.character := by
  rw [List.flatMap_map, List.filterMap_flatMap]
  refine flatMap_of_accepts mode (fun r => ?_) rs
  rw [Mode.accepts, deed]
  cases mode.refusal? r.key r.direction <;> rfl

/-- What is logged is that requests accepted were posted. -/
lemma flatMap_logs_deed :
    (rs.map (deed mode)).flatMap Deed.logs =
      (rs.filter mode.accepts).map (Log.posted "recording") := by
  rw [List.flatMap_map]
  refine flatMap_of_accepts mode (fun r => ?_) rs
  rw [Mode.accepts, deed]
  cases mode.refusal? r.key r.direction <;> rfl

end Deeds

end Recorder

namespace Session

/-- A reply without characters. -/
def Reply.bare : Reply → Reply
  | .posted events => .posted (events.map Event.bare)
  | reply => reply

/-- An answer without characters. -/
def Answer.bare (a : Answer) : Answer :=
  ⟨a.reply.bare, a.calls.map Call.bare, a.logs.map Log.bare, a.recorder.bare⟩

/-- A session without characters. -/
def bare (session : Session) : Session :=
  ⟨session.recorders.map Recorder.bare⟩

/-! ### Steps that differ in characters -/

/-- Two steps are the same but for the characters of the requests that they send.  Texts are alike
if they hold such requests. -/
inductive Step.Alike : Step → Step → Prop where
  | same (s : Step) : Alike s s
  | send (r : Request) (character : Code) : Alike (.send r) (.send { r with character })
  | sendByKeyboard (r : Request) (character : Code) :
      Alike (.sendByKeyboard r) (.sendByKeyboard { r with character })
  | press (character character' key : Code) : Alike (.press character key) (.press character' key)
  | sendJson {json json' : String} {r : Request} {character : Code}
      (h : Request.ofJson json = .ok r) (h' : Request.ofJson json' = .ok { r with character }) :
      Alike (.sendJson json) (.sendJson json')

namespace Step.Alike

variable {s s' : Step}

lemma requests_eq (h : s.Alike s') : s.requests.map Request.bare = s'.requests.map .bare := by
  cases h with
  | same | send | sendByKeyboard | press => rfl
  | sendJson h h' => simp [Step.requests, h, h', Request.bare]

lemma leaves_eq (h : s.Alike s') (mode : Mode) : s.leaves mode = s'.leaves mode := by
  cases h <;> rfl

lemma deeds_eq (h : s.Alike s') (mode : Mode) :
    (s.deeds mode).map Deed.bare = (s'.deeds mode).map Deed.bare := by
  have := congrArg (List.map (deed mode)) h.requests_eq
  simpa [Step.deeds, Recorder.deed_bare, Function.comp_def] using this

/-- Alike steps get the same reply but for the characters of events that it lists. -/
lemma reply_eq (h : s.Alike s') {r r' : Recorder} (hr : r.bare = r'.bare) (count : Nat) :
    (answer count s r).reply.bare = (answer count s' r').reply.bare := by
  have hmode : r.bare.mode = r'.bare.mode := by rw [hr]
  have hposted : r.bare.posted = r'.bare.posted := by rw [hr]
  simp only [Recorder.bare] at hmode hposted
  cases h with
  | same s =>
      cases s with
      | send | sendByKeyboard | press => simp [hmode]
      | sendJson json =>
          cases hj : Request.ofJson json with
          | ok q => simp [reply_sendJson_of_ok _ _ hj, hmode]
          | error e => simp [reply_sendJson_of_error _ _ hj]
      | posted => exact congrArg Reply.posted hposted
      | name | mode | copy | fresh => rfl
  | send q c | sendByKeyboard q c =>
      have hq : q.bare = Request.bare { q with character := c } := rfl
      simp [hmode, Recorder.answer_deed_eq hq]
  | press c c' key =>
      have hdown : (Request.down c key).bare = (Request.down c' key).bare := rfl
      have hup : (Request.up c key).bare = (Request.up c' key).bare := rfl
      simp [hmode, Recorder.answer_deed_eq hdown, Recorder.answer_deed_eq hup]
  | @sendJson json json' q c hj hj' =>
      have hq : q.bare = Request.bare { q with character := c } := rfl
      rw [reply_sendJson_of_ok _ _ hj, reply_sendJson_of_ok _ _ hj', hmode,
        Recorder.answer_deed_eq hq]

/-- Alike steps are answered alike by recorders that differ in characters only. -/
lemma answer_eq (h : s.Alike s') {r r' : Recorder} (hr : r.bare = r'.bare) (count : Nat) :
    (answer count s r).bare = (answer count s' r').bare := by
  have hmode : r.bare.mode = r'.bare.mode := by rw [hr]
  simp only [Recorder.bare] at hmode
  have hdeeds := h.deeds_eq r.mode
  have hcalls : (answer count s r).calls.map Call.bare = (answer count s' r').calls.map .bare := by
    have := congrArg (List.flatMap Deed.calls) hdeeds
    simpa [hmode, List.flatMap_map, List.map_flatMap, Deed.calls_bare] using this
  have hlogs : (answer count s r).logs.map Log.bare = (answer count s' r').logs.map .bare := by
    have := congrArg (List.flatMap Deed.logs) hdeeds
    simpa [hmode, List.flatMap_map, List.map_flatMap, Deed.logs_bare] using this
  have hrecorder : (answer count s r).recorder.bare = (answer count s' r').recorder.bare := by
    have hafter : (r.after (s.deeds r.mode)).bare = (r'.after (s'.deeds r'.mode)).bare := by
      rw [Recorder.bare_after, Recorder.bare_after, hr, hdeeds, hmode]
    have := congrArg (fun t : Recorder => { t with mode := s.leaves r.mode }) hafter
    simpa [Recorder.bare, hmode, h.leaves_eq] using this
  rw [Answer.bare, h.reply_eq hr, hcalls, hlogs, hrecorder, Answer.bare]

end Step.Alike

/-! ### Runs -/

variable {session session' : Session} {s s' : Step}

/-- Alike steps addressed to the same keyboard of sessions that differ in characters only. -/
lemma step_bare_eq (h : s.Alike s') (hs : session.bare = session'.bare) (on : Nat) :
    (session.step on s).map (fun p => (p.1.bare, p.2.bare)) =
      (session'.step on s').map fun p => (p.1.bare, p.2.bare) := by
  have hrecorders : session.recorders.map Recorder.bare = session'.recorders.map Recorder.bare :=
    congrArg Session.recorders hs
  have hlength : session.recorders.length = session'.recorders.length := by
    simpa using congrArg List.length hrecorders
  have hget := congrArg (·[on]?) hrecorders
  simp only [List.getElem?_map] at hget
  cases hr : session.recorders[on]? with
  | none =>
      have hr' : session'.recorders[on]? = none := by simpa [hr] using hget.symm
      simp [step, hr, hr']
  | some r =>
      rw [hr] at hget
      obtain ⟨r', hr', hbare⟩ := Option.map_eq_some_iff.mp hget.symm
      -- there are as many keyboards in both sessions, so new ones get the same number
      have ha := h.answer_eq hbare.symm session.recorders.length
      rw [step_of_getElem? hr, step_of_getElem? hr', ← hlength]
      generalize answer session.recorders.length s r = a at ha
      generalize answer session.recorders.length s' r' = a' at ha
      have hrecorder : a.recorder.bare = a'.recorder.bare := congrArg Answer.recorder ha
      have hadded : (added s a.recorder).map Recorder.bare = (added s' a'.recorder).map .bare := by
        cases h with
        | same s => cases s <;> simp [added, hrecorder]
        | send | sendByKeyboard | press | sendJson => rfl
      simp [ha, Session.bare, List.map_set, hrecorders, hrecorder, hadded]

/-- Alike steps, taken in sessions that differ in characters only, are answered alike and leave
sessions of this kind. -/
lemma steps_bare_eq_of_bare_eq {l l' : List (Nat × Step)}
    (h : List.Forall₂ (fun p p' => p.1 = p'.1 ∧ p.2.Alike p'.2) l l')
    (hs : session.bare = session'.bare) :
    (session.steps l).map (fun p => (p.1.map Answer.bare, p.2.bare)) =
      (session'.steps l').map fun p => (p.1.map Answer.bare, p.2.bare) := by
  induction h generalizing session session' with
  | nil => simp [steps, hs]
  | @cons p p' rest rest' hp _ ih =>
      obtain ⟨on, s⟩ := p
      obtain ⟨on', s'⟩ := p'
      obtain ⟨rfl, hp⟩ : on = on' ∧ s.Alike s' := hp
      have hstep := step_bare_eq hp hs on
      rw [steps_cons, steps_cons]
      cases h₁ : session.step on s with
      | none =>
          have h₂ : session'.step on s' = none := by simpa [h₁] using hstep.symm
          rw [h₂]
          rfl
      | some q =>
          rw [h₁] at hstep
          obtain ⟨q', h₂, hq⟩ := Option.map_eq_some_iff.mp hstep.symm
          obtain ⟨ha, hnext⟩ := Prod.mk.inj hq
          rw [h₂]
          have := congrArg (Option.map fun p => (q.1.bare :: p.1, p.2)) (ih hnext.symm)
          simpa [Function.comp_def, ha] using this

/-! ### The characters of a step's own requests -/

/-- A step asks for the events of its requests, and the characters that it attaches, posts and logs
are those of the requests delivered. -/
structure Entry.Shows (e : Entry) : Prop where
  created : e.answer.calls.filterMap Call.created? =
    e.step.requests.map fun r => (r.key, r.direction)
  attached : e.answer.calls.filterMap Call.attached? = e.delivered.map Request.character
  posted : e.answer.calls.filterMap Call.posted? = e.delivered.map .of
  /-- The records are those of events posted, with the backend and the request. -/
  logged : e.answer.logs = e.delivered.map fun r =>
    ⟨.debug, "Posted key event",
      [("backend", .text "recording"), ("key_code", .number r.key.toNat),
        ("character_code", .number r.character.toNat), ("direction", .text r.direction.name)]⟩

lemma shows_answer (count : Nat) (s : Step) (r : Recorder) :
    Entry.Shows ⟨s, answer count s r⟩ where
  created := by
    simp [Call.filterMap_created?, Step.deeds]
  attached := by
    rw [delivered_answer, answer_calls, Step.deeds, Recorder.filterMap_attached?_deed]
  posted := by
    rw [delivered_answer, filterMap_posted?_answer]
  logged := by
    rw [delivered_answer, answer_logs, Step.deeds, Recorder.flatMap_logs_deed]
    rfl

/-- **Characters are only attached**: if two lists of steps differ in nothing but the characters of
requests, given as such or by JSON texts, they get the same replies, ask for the same events, count
and post the same ones and log the same, all but for characters; and these are, in either list, the
characters of the step's own requests. -/
theorem steps_bare_eq {l l' : List (Nat × Step)}
    (h : List.Forall₂ (fun p p' => p.1 = p'.1 ∧ p.2.Alike p'.2) l l') (session : Session) :
    (session.steps l).map (fun p => (p.1.map Answer.bare, p.2.bare)) =
        (session.steps l').map (fun p => (p.1.map Answer.bare, p.2.bare)) ∧
      (∀ answers final, session.steps l = some (answers, final) →
        ∀ p ∈ entries l answers, p.2.Shows) ∧
      ∀ answers final, session.steps l' = some (answers, final) →
        ∀ p ∈ entries l' answers, p.2.Shows := by
  have hshows : ∀ (k : List (Nat × Step)) answers final,
      session.steps k = some (answers, final) → ∀ p ∈ entries k answers, p.2.Shows := by
    intro k answers final hk p hp
    obtain ⟨count, s, r, he⟩ := exists_answer_of_mem_entries hk hp
    exact he ▸ shows_answer count s r
  exact ⟨steps_bare_eq_of_bare_eq h rfl, hshows l, hshows l'⟩

/-- A key is pressed that the keyboard will not let go, a text is sent, and a copy is asked for what
was posted. -/
def spelled (character : Code) (json : String) : List (Nat × Step) :=
  [(0, .mode .noRelease), (0, .press character 0), (0, .sendJson json), (0, .copy), (1, .posted)]

theorem steps_bare_eq_spelled :
    List.Forall₂ (fun p p' => p.1 = p'.1 ∧ p.2.Alike p'.2)
        (spelled 97 "[97,11,\"down\"]") (spelled 0xd800 "[0, 11, \"down\"]") ∧
      (steps {} (spelled 97 "[97,11,\"down\"]")).map (fun p => (p.1.map Answer.bare, p.2.bare)) =
        (steps {} (spelled 0xd800 "[0, 11, \"down\"]")).map
          (fun p => (p.1.map Answer.bare, p.2.bare)) ∧
      (steps {} (spelled 97 "[97,11,\"down\"]")).map (fun p => p.2.recorders[1]?) =
        some (some ⟨.noRelease, 3, [⟨0, .down, some 97⟩, ⟨11, .down, some 97⟩]⟩) ∧
      (steps {} (spelled 0xd800 "[0, 11, \"down\"]")).map (fun p => p.2.recorders[1]?) =
        some (some ⟨.noRelease, 3, [⟨0, .down, some 0xd800⟩, ⟨11, .down, some 0⟩]⟩) := by
  have hj : Request.ofJson "[97,11,\"down\"]" = .ok ⟨97, 11, .down⟩ := by decide +kernel
  have hj' : Request.ofJson "[0, 11, \"down\"]" = .ok ⟨0, 11, .down⟩ := by decide +kernel
  have halike : List.Forall₂ (fun p p' => p.1 = p'.1 ∧ p.2.Alike p'.2)
      (spelled 97 "[97,11,\"down\"]") (spelled 0xd800 "[0, 11, \"down\"]") :=
    .cons ⟨rfl, .same _⟩ (.cons ⟨rfl, .press _ _ _⟩ (.cons ⟨rfl, .sendJson hj hj'⟩
      (.cons ⟨rfl, .same _⟩ (.cons ⟨rfl, .same _⟩ .nil))))
  exact ⟨halike, (steps_bare_eq halike {}).1, by decide +kernel, by decide +kernel⟩

end Session

end Keystroke
