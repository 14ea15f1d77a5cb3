import Keystroke.Backend
import Mathlib.Tactic.Common

/-!
What a run of requests makes of a backend, whatever the backend does.

* `Entry`, `Backend.sendBy`, `Backend.sendAllBy`: requests sent to a backend or to it as a keyboard,
  one after another;
* `Deed`: what sending one request comes to, with the calls it makes, the answer it gets and what it
  logs;
* `Backend.Does`: the deeds that a backend does from one state to another;
* `exists_deeds_sendAllBy`: a run is a list of deeds, one for each request.
-/

namespace Keystroke

/-- The two ways in which a request reaches a backend. -/
inductive Entry where
  | backend
  | keyboard

/-- What sending a request comes to: its event was refused, or made, given its character and
posted. -/
inductive Deed (ε : Type) where
  | refused (r : Request) (e : PostError)
  /-- The backend had the given name when the event was posted. -/
  | posted (r : Request) (made attached : ε) (name : String)

namespace Deed

variable {ε : Type}

/-- The request sent. -/
def request : Deed ε → Request
  | refused r _ => r
  | posted r _ _ _ => r

/-- The answer to the request. -/
def answer : Deed ε → Except PostError Unit
  | refused _ e => .error e
  | posted _ _ _ _ => .ok ()

/-- The calls made for the request. -/
def calls : Deed ε → List (Call ε)
  | refused r _ => [.create r.key r.direction]
  | posted r made attached _ =>
      [.create r.key r.direction, .attach made r.character, .post attached]

/-- What is logged about the request. -/
def logs : Deed ε → List Log
  | refused _ _ => []
  | posted r _ _ name =>
      [⟨.debug, "Posted key event",
        [("backend", .text name), ("key_code", .number r.key.toNat),
          ("character_code", .number r.character.toNat), ("direction", .text r.direction.name)]⟩]

/-- The event posted for the request. -/
def event? : Deed ε → Option ε
  | refused _ _ => none
  | posted _ _ attached _ => some attached

lemma isOk_answer (d : Deed ε) : d.answer.isOk = d.event?.isSome := by
  cases d <;> rfl

end Deed

namespace Call

variable {ε : Type}

/-- The event that a call posts. -/
def posted? : Call ε → Option ε
  | post event => some event
  | _ => none

/-- The key and the direction that a call asks an event for. -/
def created? : Call ε → Option (Code × Direction)
  | create key direction => some (key, direction)
  | _ => none

/-- Each deed posts its event, if it has one, and nothing else. -/
lemma filterMap_posted? (ds : List (Deed ε)) :
    (ds.flatMap Deed.calls).filterMap posted? = ds.filterMap Deed.event? := by
  induction ds with
  | nil => rfl
  | cons d ds ih =>
      rw [List.flatMap_cons, List.filterMap_append, ih]
      cases d <;> rfl

/-- Each deed asks for one event. -/
lemma filterMap_created? (ds : List (Deed ε)) :
    (ds.flatMap Deed.calls).filterMap created?
      = ds.map fun d => (d.request.key, d.request.direction) := by
  induction ds with
  | nil => rfl
  | cons d ds ih =>
      rw [List.flatMap_cons, List.filterMap_append, ih]
      cases d <;> rfl

end Call

namespace Backend

variable {σ ε : Type} (b : Backend σ ε)

/-- Sends a request in one of the two ways. -/
def sendBy : Entry → Request → Trace σ ε → Except PostError Unit × Trace σ ε
  | .backend => b.send
  | .keyboard => b.keyboard.send

/-- Sends requests one after another, each in its own way. -/
def sendAllBy : List (Entry × Request) → Trace σ ε → List (Except PostError Unit) × Trace σ ε
  | [], t => ([], t)
  | (entry, r) :: rest, t =>
      let (answer, t) := b.sendBy entry r t
      let (answers, t) := sendAllBy rest t
      (answer :: answers, t)

/-- The deeds that a backend does from one state to another: whether an event is refused is up to
the backend, and the event that it posts is the one it made, after the character was attached. -/
inductive Does : σ → List (Deed ε) → σ → Prop where
  | nil (s : σ) : Does s [] s
  | refused {r e s s₁ s' ds} (hcreate : b.create r.key r.direction s = (.error e, s₁))
      (h : Does s₁ ds s') : Does s (.refused r e :: ds) s'
  | posted {r made attached s s₁ s₂ s' ds}
      (hcreate : b.create r.key r.direction s = (.ok made, s₁))
      (hattach : b.attach made r.character s₁ = (attached, s₂))
      (h : Does (b.post attached s₂) ds s') :
      Does s (.posted r made attached (b.name (b.post attached s₂)) :: ds) s'

variable {b}

lemma Does.append {s s₁ s₂ : σ} {ds ds' : List (Deed ε)} (h : b.Does s ds s₁)
    (h' : b.Does s₁ ds' s₂) : b.Does s (ds ++ ds') s₂ := by
  induction h with
  | nil => exact h'
  | refused hcreate _ ih => exact .refused hcreate (ih h')
  | posted hcreate hattach _ ih => exact .posted hcreate hattach (ih h')

/-- A run of requests, from one trace to another. -/
structure Ran (b : Backend σ ε) (t : Trace σ ε) (requests : List Request)
    (answers : List (Except PostError Unit)) (t' : Trace σ ε) (ds : List (Deed ε)) : Prop where
  does : b.Does t.state ds t'.state
  requests_eq : ds.map Deed.request = requests
  answers_eq : ds.map Deed.answer = answers
  calls_eq : t'.calls = t.calls ++ ds.flatMap Deed.calls
  logs_eq : t'.logs = t.logs ++ ds.flatMap Deed.logs

/-- Sending one request is one deed. -/
lemma exists_deed_send (r : Request) (t : Trace σ ε) :
    ∃ d, Ran b t [r] [(b.send r t).1] (b.send r t).2 [d] := by
  cases hc : b.create r.key r.direction t.state with
  | mk made s₁ => cases made with
    | error e =>
        refine ⟨.refused r e, ?_⟩
        simp only [send, callCreate, hc]
        exact ⟨.refused hc (.nil _), rfl, rfl, rfl, by simp [Deed.logs, Trace.call]⟩
    | ok made =>
        cases ha : b.attach made r.character s₁ with
        | mk attached s₂ =>
            refine ⟨.posted r made attached (b.name (b.post attached s₂)), ?_⟩
            simp only [send, callCreate, hc, callAttach, Trace.call, ha, callPost, Trace.log]
            exact ⟨.posted hc ha (.nil _), rfl, rfl, by simp [Deed.calls], rfl⟩

/-- A run followed by another one is a run. -/
lemma Ran.append {t t₁ t₂ : Trace σ ε} {rs rs' : List Request}
    {answers answers' : List (Except PostError Unit)} {ds ds' : List (Deed ε)}
    (h : Ran b t rs answers t₁ ds) (h' : Ran b t₁ rs' answers' t₂ ds') :
    Ran b t (rs ++ rs') (answers ++ answers') t₂ (ds ++ ds') where
  does := h.does.append h'.does
  requests_eq := by rw [List.map_append, h.requests_eq, h'.requests_eq]
  answers_eq := by rw [List.map_append, h.answers_eq, h'.answers_eq]
  calls_eq := by rw [h'.calls_eq, h.calls_eq, List.flatMap_append, List.append_assoc]
  logs_eq := by rw [h'.logs_eq, h.logs_eq, List.flatMap_append, List.append_assoc]

lemma sendBy_eq_send (entry : Entry) : b.sendBy entry = b.send := by
  cases entry <;> rfl

lemma exists_ran_sendAllBy (es : List (Entry × Request)) (t : Trace σ ε) :
    ∃ ds, Ran b t (es.map Prod.snd) (b.sendAllBy es t).1 (b.sendAllBy es t).2 ds := by
  induction es generalizing t with
  | nil => exact ⟨[], .nil _, rfl, rfl, by simp [sendAllBy], by simp [sendAllBy]⟩
  | cons e es ih =>
      obtain ⟨entry, r⟩ := e
      obtain ⟨d, hd⟩ := exists_deed_send (b := b) r t
      obtain ⟨ds, hds⟩ := ih (b.send r t).2
      refine ⟨d :: ds, ?_⟩
      simp only [sendAllBy, sendBy_eq_send]
      exact hd.append hds

/-- **Runs of requests**: whatever the backend does, a run of requests sent in either way is a list
of deeds, one for each request in order.  Its events are those of the requests answered with
success, each posted once, and one event is asked for by each request. -/
theorem exists_deeds_sendAllBy (b : Backend σ ε) (es : List (Entry × Request)) (t : Trace σ ε) :
    ∃ ds, Ran b t (es.map Prod.snd) (b.sendAllBy es t).1 (b.sendAllBy es t).2 ds ∧
      ds.map (fun d => d.event?.isSome) = (b.sendAllBy es t).1.map Except.isOk ∧
      (ds.filterMap Deed.event?).length = (b.sendAllBy es t).1.countP Except.isOk ∧
      (b.sendAllBy es t).2.calls.filterMap Call.posted?
        = t.calls.filterMap Call.posted? ++ ds.filterMap Deed.event? ∧
      (b.sendAllBy es t).2.calls.filterMap Call.created?
        = t.calls.filterMap Call.created? ++ es.map fun e => (e.2.key, e.2.direction) := by
  obtain ⟨ds, h⟩ := exists_ran_sendAllBy (b := b) es t
  refine ⟨ds, h, ?_, ?_, ?_, ?_⟩
  · simp [← h.answers_eq, Deed.isOk_answer]
  · rw [← h.answers_eq, List.countP_map, List.length_filterMap_eq_countP]
    exact List.countP_congr fun d _ => by simp [Deed.isOk_answer]
  · rw [h.calls_eq, List.filterMap_append, Call.filterMap_posted?]
  · rw [h.calls_eq, List.filterMap_append, Call.filterMap_created?]
    have hr := congrArg (List.map fun r : Request => (r.key, r.direction)) h.requests_eq
    rw [List.map_map, List.map_map] at hr
    exact congrArg _ hr

end Backend

end Keystroke
