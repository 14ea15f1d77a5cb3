import Keystroke.Proofs.Session.Steps
import Mathlib.Data.List.Forall2

/-!
The history of each keyboard of a session, and what it says about its recorder.

* `histories`: the entries of each keyboard; a copy starts with those of its source up to the copy;
* `Lived`: the recorder that a history leads to, one step after another;
* `Tells`: the events of a recorder are those of the requests delivered in its history, its attempts
  are the requests sent, and the steps of the history, taken alone by a new keyboard, lead to the
  same recorder with the same answers;
* `forall₂_lived_histories`: every keyboard has lived its history, by induction over the steps;
* `tells_histories`: every history tells, and no step reaches another keyboard.
-/

namespace Keystroke.Session

open Recorder (Event)

/-! ### Histories -/

/-- The histories of the keyboards after one more entry of keyboard `on`.  A copy starts with the
history of its source up to the copy, a fresh keyboard with none. -/
def record (hs : List (List Entry)) (on : Nat) (e : Entry) : List (List Entry) :=
  match hs[on]? with
  | none => hs
  | some h =>
      hs.set on (h ++ [e]) ++
        match e.step with
        | .copy => [h]
        | .fresh => [[]]
        | _ => []

/-- The histories that entries add to, oldest first. -/
def recordAll (hs : List (List Entry)) (es : List (Nat × Entry)) : List (List Entry) :=
  es.foldl (fun hs p => record hs p.1 p.2) hs

/-- The histories of the keyboards of a session.  One keyboard is there from the start. -/
def histories (es : List (Nat × Entry)) : List (List Entry) :=
  recordAll [[]] es

/-- A reply without the number of a new keyboard, which is that of the keyboards there are. -/
def Reply.unnumbered : Reply → Reply
  | .keyboard _ => .keyboard 0
  | reply => reply

/-- An answer without the number of a new keyboard. -/
def Answer.unnumbered (a : Answer) : Answer :=
  { a with reply := a.reply.unnumbered }

/-- What a history tells about its recorder. -/
structure Tells (h : List Entry) (r : Recorder) : Prop where
  /-- Just the requests answered with success have been posted, in order. -/
  posted : r.posted = (h.flatMap Entry.delivered).map .of
  /-- Each request sent is an attempt. -/
  attempts : r.attempts = (h.flatMap fun e => e.step.requests).length
  /-- Each request sent is answered. -/
  answered : ∀ e ∈ h, e.answer.reply.results.length = e.step.requests.length
  /-- A keyboard that takes these steps alone gives the same answers and becomes the same. -/
  alone : ∃ answers session, steps {} (h.map fun e => (0, e.step)) = some (answers, session) ∧
    session.recorders[0]? = some r ∧
      answers.map Answer.unnumbered = h.map fun e => e.answer.unnumbered

/-! ### Lives -/

/-- A history leads from a new recorder to the given one. -/
inductive Lived : List Entry → Recorder → Prop where
  | new : Lived [] {}
  | step {h r} (hl : Lived h r) (count : Nat) (s : Step) :
      Lived (h ++ [⟨s, answer count s r⟩]) (answer count s r).recorder

lemma answer_unnumbered (count count' : Nat) (s : Step) (r : Recorder) :
    (answer count s r).unnumbered = (answer count' s r).unnumbered := by
  cases s <;> rfl

namespace Lived

variable {h : List Entry} {r : Recorder}

lemma posted (hl : Lived h r) : r.posted = (h.flatMap Entry.delivered).map .of := by
  induction hl with
  | new => rfl
  | @step h r hl count s ih =>
      rw [posted_answer, ih, List.flatMap_append, List.map_append, List.flatMap_singleton,
        delivered_answer]

lemma attempts (hl : Lived h r) : r.attempts = (h.flatMap fun e => e.step.requests).length := by
  induction hl with
  | new => rfl
  | @step h r hl count s ih => simp [Recorder.after, ih, Step.deeds]

lemma answered (hl : Lived h r) :
    ∀ e ∈ h, e.answer.reply.results.length = e.step.requests.length := by
  induction hl with
  | new => simp
  | @step h r hl count s ih =>
      intro e he
      rcases List.mem_append.mp he with he | he
      · exact ih e he
      · obtain rfl := List.mem_singleton.mp he
        simp [Step.deeds]

/-- Nobody else is needed to live a history. -/
lemma alone (hl : Lived h r) :
    ∃ answers session, steps {} (h.map fun e => (0, e.step)) = some (answers, session) ∧
      session.recorders[0]? = some r ∧
        answers.map Answer.unnumbered = h.map fun e => e.answer.unnumbered := by
  induction hl with
  | new => exact ⟨[], {}, rfl, rfl, rfl⟩
  | @step h r hl count s ih =>
      obtain ⟨answers, session, hsteps, hr, hanswers⟩ := ih
      have hlt : 0 < session.recorders.length := (List.getElem?_eq_some_iff.mp hr).1
      have hrun := steps_concat hsteps (step_of_getElem? hr s)
      refine ⟨_, _, by rw [List.map_append]; exact hrun, ?_, ?_⟩
      · rw [List.getElem?_append_left (by simpa using hlt), List.getElem?_set_self hlt]
        simp
      -- alone, a copy may get another number than among other keyboards
      · simp [hanswers, answer_unnumbered session.recorders.length count]

lemma tells (hl : Lived h r) : Tells h r :=
  ⟨hl.posted, hl.attempts, hl.answered, hl.alone⟩

end Lived

/-- What a history tells is decided by its steps. -/
lemma Tells.congr {h h' : List Entry} {r r' : Recorder} (ht : Tells h r) (ht' : Tells h' r')
    (hs : h.map Entry.step = h'.map Entry.step) :
    r = r' ∧ h.map (fun e => e.answer.unnumbered) = h'.map fun e => e.answer.unnumbered := by
  obtain ⟨answers, session, hsteps, hr, ha⟩ := ht.alone
  obtain ⟨answers', session', hsteps', hr', ha'⟩ := ht'.alone
  have hl : h.map (fun e => (0, e.step)) = h'.map fun e => (0, e.step) := by
    simpa [Function.comp_def] using congrArg (List.map fun s => (0, s)) hs
  rw [hl, hsteps', Option.some_inj, Prod.mk.injEq] at hsteps
  obtain ⟨rfl, rfl⟩ := hsteps
  exact ⟨Option.some.inj (hr.symm.trans hr'), ha.symm.trans ha'⟩

/-! ### Keyboards of a session -/

section Forall₂

variable {α β : Type} {R : α → β → Prop} {xs : List α} {ys : List β}

lemma forall₂_getElem? (h : List.Forall₂ R xs ys) {i : Nat} {y : β} (hy : ys[i]? = some y) :
    ∃ x, xs[i]? = some x ∧ R x y := by
  induction h generalizing i with
  | nil => simp at hy
  | cons hxy _ ih =>
      cases i with
      | zero =>
          obtain rfl := Option.some.inj hy
          exact ⟨_, rfl, hxy⟩
      | succ i => exact ih hy

lemma forall₂_set (h : List.Forall₂ R xs ys) {x : α} {y : β} (hxy : R x y) (i : Nat) :
    List.Forall₂ R (xs.set i x) (ys.set i y) := by
  induction h generalizing i with
  | nil => exact .nil
  | cons hab h ih =>
      cases i with
      | zero => exact .cons hxy h
      | succ i => exact .cons hab (ih i)

end Forall₂

variable {session session' : Session}

/-- One step keeps the histories of all keyboards. -/
lemma forall₂_lived_record {hs : List (List Entry)} {on : Nat} {s : Step} {a : Answer}
    (h : List.Forall₂ Lived hs session.recorders) (hstep : session.step on s = some (a, session')) :
    List.Forall₂ Lived (record hs on ⟨s, a⟩) session'.recorders := by
  obtain ⟨r, hr, rfl, rfl⟩ := exists_of_step hstep
  obtain ⟨es, hes, hl⟩ := forall₂_getElem? h hr
  rw [record, hes]
  refine List.rel_append (forall₂_set h (.step hl _ s) on) ?_
  cases s with
  | copy => exact .cons hl .nil
  | fresh => exact .cons .new .nil
  | send | sendByKeyboard | press | sendJson | name | mode | posted => exact .nil

/-- Every keyboard lives its history, however many steps are taken. -/
lemma forall₂_lived_recordAll {hs : List (List Entry)} {l : List (Nat × Step)}
    {answers : List Answer} (h : List.Forall₂ Lived hs session.recorders)
    (hsteps : session.steps l = some (answers, session')) :
    List.Forall₂ Lived (recordAll hs (entries l answers)) session'.recorders := by
  induction l generalizing session hs answers with
  | nil =>
      obtain ⟨rfl, rfl⟩ : [] = answers ∧ session = session' := by simpa [steps] using hsteps
      exact h
  | cons p rest ih =>
      obtain ⟨a, session₁, answers', hstep, hrest, rfl⟩ := exists_of_steps_cons hsteps
      exact ih (forall₂_lived_record h hstep) hrest

lemma forall₂_lived_histories {l : List (Nat × Step)} {answers : List Answer}
    (hsteps : steps {} l = some (answers, session)) :
    List.Forall₂ Lived (histories (entries l answers)) session.recorders :=
  forall₂_lived_recordAll (.cons .new .nil) hsteps

/-- A text without a request changes nothing and calls nobody. -/
lemma step_sendJson_of_error {on : Nat} {json : String} {e : Json.Error} {a : Answer}
    (hj : Request.ofJson json = .error e)
    (h : session.step on (.sendJson json) = some (a, session')) :
    a.reply = .unreadable e ∧ a.calls = [] ∧ a.logs = [] ∧ session' = session := by
  obtain ⟨r, hr, rfl, rfl⟩ := exists_of_step h
  have ha : answer session.recorders.length (.sendJson json) r = ⟨.unreadable e, [], [], r⟩ := by
    simp only [answer, run, hj]
  obtain ⟨hon, hget⟩ := List.getElem?_eq_some_iff.mp hr
  refine ⟨by rw [ha], by rw [ha], by rw [ha], ?_⟩
  have hadded : added (.sendJson json) r = [] := rfl
  rw [ha, hadded, List.append_nil, ← hget, List.set_getElem_self]

/-- A step changes no other keyboard. -/
lemma getElem?_of_step {on n : Nat} {s : Step} {a : Answer}
    (h : session.step on s = some (a, session')) (hne : n ≠ on)
    (hn : n < session.recorders.length) : session'.recorders[n]? = session.recorders[n]? := by
  obtain ⟨r, -, -, rfl⟩ := exists_of_step h
  rw [List.getElem?_append_left (by simpa using hn), List.getElem?_set_ne hne.symm]

/-- What a step makes of the keyboard it is addressed to, and its answer, are up to that keyboard. -/
lemma getElem?_self_of_step {on : Nat} {s : Step} {a : Answer} {r : Recorder}
    (h : session.step on s = some (a, session')) (hr : session.recorders[on]? = some r) :
    session'.recorders[on]? = some (answer 0 s r).recorder ∧
      a.unnumbered = (answer 0 s r).unnumbered := by
  have hon : on < session.recorders.length := (List.getElem?_eq_some_iff.mp hr).1
  rw [step_of_getElem? hr, Option.some_inj, Prod.mk.injEq] at h
  obtain ⟨rfl, rfl⟩ := h
  refine ⟨?_, answer_unnumbered _ _ _ _⟩
  rw [List.getElem?_append_left (by simpa using hon), List.getElem?_set_self hon]
  simp

/-- A keyboard that is the same in two sessions answers alike in both, whatever others do. -/
lemma answers_eq_of_getElem?_eq {session₁ session₁' : Session} {n : Nat} {r : Recorder}
    {l : List (Nat × Step)} {answers answers₁ : List Answer}
    (hr : session.recorders[n]? = some r) (hr₁ : session₁.recorders[n]? = some r)
    (h : session.steps l = some (answers, session'))
    (h₁ : session₁.steps l = some (answers₁, session₁')) {i : Nat} {s : Step}
    (hi : l[i]? = some (n, s)) :
    answers[i]?.map Answer.unnumbered = answers₁[i]?.map Answer.unnumbered := by
  -- steps addressed to the keyboard keep it the same in both sessions, and others leave it alone
  induction l generalizing session session₁ r answers answers₁ i with
  | nil => simp at hi
  | cons p rest ih =>
      obtain ⟨on, t⟩ := p
      obtain ⟨a, next, as, hstep, hrest, rfl⟩ := exists_of_steps_cons h
      obtain ⟨a₁, next₁, as₁, hstep₁, hrest₁, rfl⟩ := exists_of_steps_cons h₁
      by_cases hon : n = on
      · subst hon
        obtain ⟨hnext, ha⟩ := getElem?_self_of_step hstep hr
        obtain ⟨hnext₁, ha₁⟩ := getElem?_self_of_step hstep₁ hr₁
        cases i with
        | zero => simp [ha, ha₁]
        | succ i => exact ih hnext hnext₁ hrest hrest₁ hi
      · have hn := (List.getElem?_eq_some_iff.mp hr).1
        have hn₁ := (List.getElem?_eq_some_iff.mp hr₁).1
        cases i with
        | zero =>
            obtain ⟨rfl, -⟩ := Prod.mk.inj (Option.some.inj hi)
            exact absurd rfl hon
        | succ i =>
            exact ih ((getElem?_of_step hstep hon hn).trans hr)
              ((getElem?_of_step hstep₁ hon hn₁).trans hr₁) hrest hrest₁ hi

/-! ### The whole session -/

/-- **Histories of keyboards**: in every session whose steps are addressed to keyboards that are
there, each keyboard has a history that tells what it posted and how often it was asked, and that
leads to the same keyboard and the same answers without the rest of the session, however else it
comes about.  A text without a request does nothing.  No step reaches another keyboard, nor the
answers to what that one is asked later. -/
theorem tells_histories {l : List (Nat × Step)} (hl : Addressed 1 l) :
    (∃ answers session, steps {} l = some (answers, session) ∧ answers.length = l.length ∧
      List.Forall₂ Tells (histories (entries l answers)) session.recorders) ∧
    (∀ h r h' r', Tells h r → Tells h' r' → h.map Entry.step = h'.map Entry.step →
      r = r' ∧ h.map (fun e => e.answer.unnumbered) = h'.map fun e => e.answer.unnumbered) ∧
    (∀ (session session' : Session) on json e a, Request.ofJson json = .error e →
      session.step on (.sendJson json) = some (a, session') →
        a.reply = .unreadable e ∧ a.calls = [] ∧ a.logs = [] ∧ session' = session) ∧
    ∀ (session session' : Session) on s a, session.step on s = some (a, session') →
      ∀ n, n ≠ on → n < session.recorders.length →
        session'.recorders[n]? = session.recorders[n]? ∧
          ∀ rest answers answers' final final', session.steps rest = some (answers, final) →
            session'.steps rest = some (answers', final') → ∀ (i : Nat) t, rest[i]? = some (n, t) →
              answers[i]?.map Answer.unnumbered = answers'[i]?.map Answer.unnumbered := by
  refine ⟨?_, fun _ _ _ _ ht ht' hs => ht.congr ht' hs,
    fun _ _ _ _ _ _ hj h => step_sendJson_of_error hj h, fun _ _ _ _ _ hstep n hne hn => ?_⟩
  · obtain ⟨answers, session, h⟩ : ∃ answers session, steps {} l = some (answers, session) :=
      exists_steps_iff.mpr hl
    exact ⟨answers, session, h, length_of_steps h,
      (forall₂_lived_histories h).imp fun _ _ hl => hl.tells⟩
  · have hsame := getElem?_of_step hstep hne hn
    have hr := List.getElem?_eq_getElem hn
    refine ⟨hsame, fun _ _ _ _ _ h h' _ _ hi => ?_⟩
    exact answers_eq_of_getElem?_eq hr (hsame.trans hr) h h' hi

/-- A keyboard that refuses to let keys go is copied and pressed; its source goes on by a text that
holds no request, and a fresh keyboard lets go what the copy has pressed. -/
def copied : List (Nat × Step) :=
  [(0, .send ⟨97, 0, .down⟩), (0, .mode .noRelease), (0, .copy), (1, .press 98 11),
    (0, .sendJson "[1,2]"), (1, .fresh), (2, .sendByKeyboard ⟨98, 11, .up⟩)]

theorem tells_histories_copied :
    Addressed 1 copied ∧ ∃ answers session, steps {} copied = some (answers, session) ∧
      session.recorders = [⟨.noRelease, 1, [⟨0, .down, some 97⟩]⟩,
        ⟨.noRelease, 3, [⟨0, .down, some 97⟩, ⟨11, .down, some 98⟩]⟩,
        ⟨.willing, 1, [⟨11, .up, some 98⟩]⟩] ∧
      List.Forall₂ Tells (histories (entries copied answers)) session.recorders := by
  have hl : Addressed 1 copied := by
    simp [copied, Addressed, Step.makes]
  obtain ⟨⟨answers, session, h, -, htells⟩, -⟩ := tells_histories hl
  have hrecorders : (steps {} copied).map (fun p => p.2.recorders) =
      some [⟨.noRelease, 1, [⟨0, .down, some 97⟩]⟩,
        ⟨.noRelease, 3, [⟨0, .down, some 97⟩, ⟨11, .down, some 98⟩]⟩,
        ⟨.willing, 1, [⟨11, .up, some 98⟩]⟩] := by
    decide +kernel
  rw [h] at hrecorders
  exact ⟨hl, answers, session, h, Option.some.inj hrecorders, htells⟩

end Keystroke.Session
