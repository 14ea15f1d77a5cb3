import Keystroke.Proofs.Session.History

/-!
Keys that are pressed do not stay down.

* `Press`, `Gesture`: a key with its character, and what is done at a keyboard that is only pressed:
  a press, with its release, or another mode for the presses that follow;
* `Gesture.Releasing`: no key is pressed in the mode that refuses releases;
* `Gesture.Completes`: a press is answered with success twice, or refused twice and nothing is
  posted;
* `keysDown`: the keys that events leave down;
* `Played`: the recorder that gestures lead to, each answered by the one before it;
* `presses_paired`: without a press in that mode just the events of the completed presses are
  posted, each release right behind its key-down; in it every press leaves its key down.
-/

namespace Keystroke.Session

open Recorder (Mode Event answer_of_accepts exists_answer_of_not_accepts)

/-- A key to press, and the character that goes with it. -/
structure Press where
  character : Code
  key : Code
  deriving DecidableEq

/-- The events of a press that is completed. -/
def Press.events (p : Press) : List Event :=
  [⟨p.key, .down, some p.character⟩, ⟨p.key, .up, some p.character⟩]

/-- What is done at a keyboard that is only pressed. -/
inductive Gesture where
  | press (p : Press)
  | mode (m : Mode)

namespace Gesture

/-- A gesture as a step of a session. -/
def step : Gesture → Step
  | press p => .press p.character p.key
  | mode m => .mode m

/-- The mode that gestures lead to. -/
def modeAfter (m : Mode) (gs : List Gesture) : Mode :=
  gs.foldl (fun m g => g.step.leaves m) m

/-- No key is pressed in the mode that refuses releases. -/
def Releasing : Mode → List Gesture → Prop
  | _, [] => True
  | m, press _ :: gs => m ≠ .noRelease ∧ Releasing m gs
  | _, mode m :: gs => Releasing m gs

/-- A press is answered with success twice, or refused twice, and then nothing is posted. -/
def Completes : Gesture → Answer → Prop
  | press _, a => a.reply = .outcomes (.ok ()) (.ok ()) ∨
      (∃ e e', a.reply = .outcomes (.error e) (.error e')) ∧ a.calls.filterMap Call.posted? = []
  | mode _, a => a.reply = .done ∧ a.calls = []

/-- The press that is completed by two answers of success. -/
def completed? : Gesture → Reply → Option Press
  | press p, .outcomes (.ok ()) (.ok ()) => some p
  | _, _ => none

/-- The presses both of whose requests are answered with success, in order. -/
def completed (gs : List Gesture) (answers : List Answer) : List Press :=
  (gs.zip answers).filterMap fun p => completed? p.1 p.2.reply

end Gesture

open Gesture (modeAfter Releasing Completes completed? completed)

lemma completed_cons (g : Gesture) (gs : List Gesture) (a : Answer) (answers : List Answer) :
    completed (g :: gs) (a :: answers) = (completed? g a.reply).toList ++ completed gs answers := by
  simp only [completed, List.zip_cons_cons, List.filterMap_cons]
  cases completed? g a.reply <;> rfl

/-! ### Keys that are down -/

/-- The keys that are down after one more event.  A release takes back the last key-down of its key
that was not let go. -/
def hold (keys : List Code) (e : Event) : List Code :=
  match e.direction with
  | .down => e.key :: keys
  | .up => keys.erase e.key

/-- The keys that events leave down, the last one first, and each as often as it is down. -/
def keysDown (events : List Event) : List Code :=
  events.foldl hold []

lemma keysDown_append_down (events : List Event) (key : Code) (character : Option Code) :
    keysDown (events ++ [⟨key, .down, character⟩]) = key :: keysDown events := by
  simp [keysDown, hold]

/-- A press that is completed leaves no key down. -/
lemma keysDown_append_events (events : List Event) (p : Press) :
    keysDown (events ++ p.events) = keysDown events := by
  simp [keysDown, hold, Press.events]

lemma keysDown_append_flatMap (events : List Event) (ps : List Press) :
    keysDown (events ++ ps.flatMap Press.events) = keysDown events := by
  induction ps generalizing events with
  | nil => simp
  | cons p ps ih => rw [List.flatMap_cons, ← List.append_assoc, ih, keysDown_append_events]

/-! ### One press -/

/-- A mode that refuses a request refuses its release, unless it is the one that refuses these
alone. -/
lemma accepts_lifted {m : Mode} (hm : m ≠ .noRelease) (q : Request) :
    m.accepts q.lifted = m.accepts q := by
  cases m with
  | willing | noSource | noEvent | noBackend | badRequest => rfl
  | noOddKeys =>
      by_cases hodd : q.key.toNat % 2 = 1 <;>
        simp [Mode.accepts, Mode.refusal?, Request.lifted, hodd]
  | noRelease => exact absurd rfl hm

section Answer

variable (count : Nat) (r : Recorder)

/-- Where releases are not refused, a press is completed or comes to nothing. -/
lemma press_of_ne (p : Press) (hm : r.mode ≠ .noRelease) :
    Completes (.press p) (answer count (.press p.character p.key) r) ∧
      (answer count (.press p.character p.key) r).recorder.posted = r.posted ++
        (completed? (.press p) (answer count (.press p.character p.key) r).reply).toList.flatMap
          Press.events := by
  have hup : r.mode.accepts (.up p.character p.key) = r.mode.accepts (.down p.character p.key) :=
    accepts_lifted hm (.down p.character p.key)
  cases hdown : r.mode.accepts (.down p.character p.key) with
  | true =>
      have hreply : (answer count (.press p.character p.key) r).reply =
          .outcomes (.ok ()) (.ok ()) := by
        rw [reply_press, answer_of_accepts hdown, answer_of_accepts (hup.trans hdown)]
      refine ⟨.inl hreply, ?_⟩
      rw [posted_answer, hreply, Step.requests, Request.lifted_down,
        List.filter_cons_of_pos hdown, List.filter_cons_of_pos (hup.trans hdown)]
      rfl
  | false =>
      obtain ⟨e, he⟩ := exists_answer_of_not_accepts hdown
      obtain ⟨e', he'⟩ := exists_answer_of_not_accepts (hup.trans hdown)
      have hreply : (answer count (.press p.character p.key) r).reply =
          .outcomes (.error e) (.error e') := by
        rw [reply_press, he, he']
      have hnone : (Step.press p.character p.key).requests.filter r.mode.accepts = [] := by
        simp [Step.requests, hdown, hup]
      refine ⟨.inr ⟨⟨e, e', hreply⟩, ?_⟩, ?_⟩
      · rw [filterMap_posted?_answer, hnone, List.map_nil]
      · rw [posted_answer, hnone, hreply]
        rfl

/-- Where releases are refused, a press goes down and stays there. -/
lemma press_of_eq (p : Press) (hm : r.mode = .noRelease) :
    (answer count (.press p.character p.key) r).reply = .outcomes (.ok ()) (.error .noSource) ∧
      (answer count (.press p.character p.key) r).recorder.posted =
        r.posted ++ [⟨p.key, .down, some p.character⟩] := by
  rw [reply_press, posted_answer, hm]
  exact ⟨rfl, rfl⟩

end Answer

/-! ### Gestures one after another -/

/-- Gestures lead from one recorder to another, each answered by the one that those before it have
left. -/
inductive Played : Recorder → List Gesture → List Answer → Recorder → Prop where
  | nil (r : Recorder) : Played r [] [] r
  | cons {g gs answers r r'} (count : Nat)
      (h : Played (answer count g.step r).recorder gs answers r') :
      Played r (g :: gs) (answer count g.step r :: answers) r'

namespace Played

variable {r r' : Recorder} {gs : List Gesture} {answers : List Answer}

lemma mode_eq (h : Played r gs answers r') : r'.mode = modeAfter r.mode gs := by
  induction h with
  | nil r => rfl
  | @cons g gs answers r r' count h ih =>
      rw [ih, answer_recorder]
      rfl

/-- Gestures that release every key complete each press or let it come to nothing, and post just the
events of those completed. -/
lemma completes_posted (h : Played r gs answers r') (hrel : Releasing r.mode gs) :
    List.Forall₂ Completes gs answers ∧
      r'.posted = r.posted ++ (completed gs answers).flatMap Press.events := by
  induction h with
  | nil r => exact ⟨.nil, by simp [completed]⟩
  | @cons g gs answers r r' count h ih =>
      cases g with
      | press p =>
          obtain ⟨hm, hrel⟩ := hrel
          obtain ⟨hp, hposted⟩ := press_of_ne count r p hm
          obtain ⟨hall, hrest⟩ := ih (by rw [answer_recorder]; exact hrel)
          refine ⟨.cons hp hall, ?_⟩
          rw [completed_cons, hrest, Gesture.step, hposted, List.append_assoc,
            List.flatMap_append]
      | mode m =>
          obtain ⟨hall, hrest⟩ := ih hrel
          exact ⟨.cons ⟨rfl, rfl⟩ hall, hrest⟩

end Played

/-- A step is answered by the recorder it is addressed to, which becomes the one of the answer. -/
lemma exists_step_self {session : Session} {on : Nat} {r : Recorder}
    (hr : session.recorders[on]? = some r) (s : Step) :
    ∃ session', session.step on s = some (answer session.recorders.length s r, session') ∧
      session'.recorders[on]? = some (answer session.recorders.length s r).recorder := by
  have hstep := step_of_getElem? hr s
  have hnext := (getElem?_self_of_step hstep hr).1
  rw [answer_recorder 0, ← answer_recorder session.recorders.length] at hnext
  exact ⟨_, hstep, hnext⟩

/-- Gestures at a keyboard that is there are answered. -/
lemma exists_played {session : Session} {on : Nat} {r : Recorder}
    (hr : session.recorders[on]? = some r) (gs : List Gesture) :
    ∃ answers session' r', session.steps (gs.map fun g => (on, g.step)) = some (answers, session') ∧
      session'.recorders[on]? = some r' ∧ Played r gs answers r' := by
  induction gs generalizing session r with
  | nil => exact ⟨[], session, r, rfl, hr, .nil r⟩
  | cons g gs ih =>
      obtain ⟨next, hstep, hnext⟩ := exists_step_self hr g.step
      obtain ⟨answers, session', r', hsteps, hr', hp⟩ := ih hnext
      refine ⟨_, session', r', ?_, hr', .cons _ hp⟩
      rw [List.map_cons, steps_cons, hstep, Option.bind_some, hsteps]
      rfl

/-- **No key stays down**: whatever is pressed on a keyboard and whichever modes it is set to in
between, as long as no key is pressed in the mode that refuses releases, each press is answered with
success twice, or refused twice with nothing posted, and what is posted is a key-down and its
release side by side for each press answered with success, in order, so that the same keys are down
as before.  In that mode every press, whatever came before it, is answered with success and then
refused for want of a source, and its key-down is the last event posted and leaves its key down. -/
theorem presses_paired {session : Session} {on : Nat} {r : Recorder}
    (hr : session.recorders[on]? = some r) (gs : List Gesture) :
    ∃ answers session' r', session.steps (gs.map fun g => (on, g.step)) = some (answers, session') ∧
      session'.recorders[on]? = some r' ∧ r'.mode = modeAfter r.mode gs ∧
      (Releasing r.mode gs →
        List.Forall₂ Completes gs answers ∧
        r'.posted = r.posted ++ (completed gs answers).flatMap Press.events ∧
        keysDown r'.posted = keysDown r.posted) ∧
      (r'.mode = .noRelease → ∀ p : Press, ∃ a session'' r'',
        session'.step on (.press p.character p.key) = some (a, session'') ∧
        session''.recorders[on]? = some r'' ∧
        a.reply = .outcomes (.ok ()) (.error .noSource) ∧
        r''.posted = r'.posted ++ [⟨p.key, .down, some p.character⟩] ∧
        keysDown r''.posted = p.key :: keysDown r'.posted) := by
  obtain ⟨answers, session', r', hsteps, hr', hp⟩ := exists_played hr gs
  refine ⟨answers, session', r', hsteps, hr', hp.mode_eq, fun hrel => ?_, fun hm p => ?_⟩
  · obtain ⟨hall, hposted⟩ := hp.completes_posted hrel
    exact ⟨hall, hposted, by rw [hposted, keysDown_append_flatMap]⟩
  · obtain ⟨session'', hstep, hr''⟩ := exists_step_self hr' (.press p.character p.key)
    obtain ⟨hreply, hposted⟩ := press_of_eq session'.recorders.length r' p hm
    exact ⟨_, session'', _, hstep, hr'', hreply, hposted,
      by rw [hposted, keysDown_append_down]⟩

/-- A key pressed, refused and pressed again among other modes, at a new keyboard, and another one
pressed where releases are refused. -/
def pressedAmongModes : List Gesture :=
  [.press ⟨97, 1⟩, .mode .noOddKeys, .press ⟨97, 1⟩, .press ⟨98, 2⟩, .mode .noSource,
    .press ⟨98, 2⟩, .mode .willing, .press ⟨97, 1⟩, .mode .noRelease]

theorem presses_paired_among_modes :
    ({} : Session).recorders[0]? = some ({} : Recorder) ∧
      Releasing .willing pressedAmongModes ∧
      ∃ answers session' r',
        steps {} (pressedAmongModes.map fun g => (0, g.step)) = some (answers, session') ∧
        session'.recorders[0]? = some r' ∧
        completed pressedAmongModes answers = [⟨97, 1⟩, ⟨98, 2⟩, ⟨97, 1⟩] ∧
        r'.posted = [⟨97, 1⟩, ⟨98, 2⟩, ⟨97, 1⟩].flatMap Press.events ∧ keysDown r'.posted = [] ∧
        ∃ a session'' r'', session'.step 0 (.press 99 3) = some (a, session'') ∧
          session''.recorders[0]? = some r'' ∧ a.reply = .outcomes (.ok ()) (.error .noSource) ∧
          keysDown r''.posted = [3] := by
  have hr : ({} : Session).recorders[0]? = some ({} : Recorder) := rfl
  have hrel : Releasing .willing pressedAmongModes := by
    simp [pressedAmongModes, Releasing]
  obtain ⟨answers, session', r', hsteps, hr', hmode, hposts, hdown⟩ :=
    presses_paired hr pressedAmongModes
  obtain ⟨-, hposted, hkeys⟩ := hposts hrel
  obtain ⟨a, session'', r'', hstep, hr'', hreply, -, hkeys'⟩ := hdown hmode ⟨99, 3⟩
  have hcompleted : (steps {} (pressedAmongModes.map fun g => (0, g.step))).map
      (fun p => completed pressedAmongModes p.1) = some [⟨97, 1⟩, ⟨98, 2⟩, ⟨97, 1⟩] := by
    decide +kernel
  rw [hsteps] at hcompleted
  have hcompleted : completed pressedAmongModes answers = [⟨97, 1⟩, ⟨98, 2⟩, ⟨97, 1⟩] :=
    Option.some.inj hcompleted
  rw [hcompleted] at hposted
  exact ⟨hr, hrel, answers, session', r', hsteps, hr', hcompleted, hposted, hkeys, a, session'',
    r'', hstep, hr'', hreply, by rw [hkeys', hkeys]; rfl⟩

end Keystroke.Session
