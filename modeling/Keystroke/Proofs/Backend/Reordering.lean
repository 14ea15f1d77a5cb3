import Keystroke.Proofs.Backend.Deeds
import Keystroke.Recorder
import Mathlib.Data.List.Forall2
import Mathlib.Data.List.Perm.Basic

/-!
Requests sent in another order, to a backend whose answers do not look back.

* `Backend.Makes`: whether an event is made, and which one, is up to the key and the direction;
* `Deed.draft?`, `Request.draft?`: the event made for a request and the character that goes with it,
  as it was and as it is bound to be;
* `Backend.FareAlone`: every request of a run fares as it would alone;
* `fareAlone_sendAllBy`: with such a backend, every run is like that, whatever came before it;
* `sendAllBy_orderless`: the same requests in another order get the same answers, and the same
  events are posted if attaching a character does not look back either;
* `not_perm_posted_countingRecorders`: without this last condition other events may be posted.
-/

namespace Keystroke

variable {σ ε : Type}

/-- The event made for a request, before a character was attached, and that character; none if the
request was refused. -/
def Deed.draft? : Deed ε → Option (ε × Code)
  | refused _ _ => none
  | posted r made _ _ => some (made, r.character)

/-- The event that is made for a request, if events are made by `make`, and the character that goes
with it. -/
def Request.draft? (make : Code → Direction → Except PostError ε) (r : Request) :
    Option (ε × Code) :=
  (make r.key r.direction).toOption.map fun made => (made, r.character)

namespace Backend

/-- Whether an event is made, and which one, is up to the key and the direction alone. -/
def Makes (b : Backend σ ε) (make : Code → Direction → Except PostError ε) : Prop :=
  ∀ key direction s, (b.create key direction s).1 = make key direction

/-- An event is what becomes, in some state, of another one and a character attached to it. -/
def Completes (b : Backend σ ε) (draft : ε × Code) (event : ε) : Prop :=
  ∃ s, (b.attach draft.1 draft.2 s).1 = event

/-- Every request of a run fares as it would alone. -/
structure FareAlone (b : Backend σ ε) (make : Code → Direction → Except PostError ε)
    (t : Trace σ ε) (es : List (Entry × Request)) (ds : List (Deed ε)) : Prop where
  ran : Ran b t (es.map Prod.snd) (b.sendAllBy es t).1 (b.sendAllBy es t).2 ds
  /-- Each answer is that of the backend to this request, when it was never called before. -/
  answers : ∀ s, (b.sendAllBy es t).1 = es.map fun e => (b.send e.2 { state := s }).1
  /-- Events are made for the requests answered with success, in the order of the requests. -/
  drafts : ds.filterMap Deed.draft? = (es.map Prod.snd).filterMap (Request.draft? make)
  /-- Just these events are posted, after each was given its character. -/
  posted : List.Forall₂ b.Completes (ds.filterMap Deed.draft?) (ds.filterMap Deed.event?)

variable {b : Backend σ ε} {make : Code → Direction → Except PostError ε}

/-! ### Deeds -/

lemma Does.completes {s s' : σ} {ds : List (Deed ε)} (h : b.Does s ds s') :
    List.Forall₂ b.Completes (ds.filterMap Deed.draft?) (ds.filterMap Deed.event?) := by
  induction h with
  | nil => exact .nil
  | refused _ _ ih => exact ih
  | @posted r made attached s s₁ s₂ s' ds _ hattach _ ih =>
      exact .cons ⟨s₁, congrArg Prod.fst hattach⟩ ih

section Makes

variable (hb : b.Makes make)
include hb

/-- What is made for a request, and how it is answered, are up to the request. -/
lemma Does.draft?_answer {s s' : σ} {ds : List (Deed ε)} (h : b.Does s ds s') :
    ∀ d ∈ ds, d.draft? = d.request.draft? make ∧
      d.answer = (make d.request.key d.request.direction).map fun _ => () := by
  induction h with
  | nil => simp
  | @refused r e s s₁ s' ds hcreate _ ih =>
      have hmake : make r.key r.direction = .error e := by rw [← hb _ _ s, hcreate]
      refine List.forall_mem_cons.mpr ⟨?_, ih⟩
      simp [Deed.draft?, Deed.answer, Deed.request, Request.draft?, hmake, Except.map,
        Except.toOption]
  | @posted r made attached s s₁ s₂ s' ds hcreate _ _ ih =>
      have hmake : make r.key r.direction = .ok made := by rw [← hb _ _ s, hcreate]
      refine List.forall_mem_cons.mpr ⟨?_, ih⟩
      simp [Deed.draft?, Deed.answer, Deed.request, Request.draft?, hmake, Except.map,
        Except.toOption]

lemma Ran.answers_of_makes {t t' : Trace σ ε} {rs : List Request}
    {answers : List (Except PostError Unit)} {ds : List (Deed ε)} (h : Ran b t rs answers t' ds) :
    answers = rs.map fun r => (make r.key r.direction).map fun _ => () := by
  rw [← h.answers_eq, ← h.requests_eq, List.map_map]
  exact List.map_congr_left fun d hd => (h.does.draft?_answer hb d hd).2

lemma Ran.drafts_of_makes {t t' : Trace σ ε} {rs : List Request}
    {answers : List (Except PostError Unit)} {ds : List (Deed ε)} (h : Ran b t rs answers t' ds) :
    ds.filterMap Deed.draft? = rs.filterMap (Request.draft? make) := by
  rw [← h.requests_eq, List.filterMap_map]
  exact List.filterMap_congr fun d hd => (h.does.draft?_answer hb d hd).1

/-- A request sent alone is answered by what `make` says, in any state. -/
lemma send_of_makes (r : Request) (t : Trace σ ε) :
    (b.send r t).1 = (make r.key r.direction).map fun _ => () := by
  obtain ⟨d, hd⟩ := exists_deed_send (b := b) r t
  exact List.singleton_inj.mp (hd.answers_of_makes hb)

/-- Every run of requests fares as each of them would alone, whatever came before it. -/
lemma fareAlone_sendAllBy (t : Trace σ ε) (es : List (Entry × Request)) :
    ∃ ds, FareAlone b make t es ds := by
  obtain ⟨ds, h⟩ := exists_ran_sendAllBy (b := b) es t
  refine ⟨ds, h, fun s => ?_, h.drafts_of_makes hb, h.does.completes⟩
  rw [h.answers_of_makes hb, List.map_map]
  exact List.map_congr_left fun e _ => (send_of_makes hb e.2 _).symm

end Makes

/-! ### Another order -/

/-- The events posted are known one by one if attaching does not look back either. -/
lemma FareAlone.events_eq {t : Trace σ ε} {es : List (Entry × Request)} {ds : List (Deed ε)}
    (h : FareAlone b make t es ds) {attach : ε → Code → ε}
    (ha : ∀ event character s, (b.attach event character s).1 = attach event character) :
    ds.filterMap Deed.event? =
      ((es.map Prod.snd).filterMap (Request.draft? make)).map fun p => attach p.1 p.2 := by
  have heq : List.Forall₂ (fun p e => attach p.1 p.2 = e) (ds.filterMap Deed.draft?)
      (ds.filterMap Deed.event?) :=
    h.posted.imp fun p e ⟨s, hs⟩ => (ha p.1 p.2 s).symm.trans hs
  rw [← h.drafts]
  exact (List.forall₂_eq_eq_eq ▸ List.forall₂_map_left_iff.mpr heq).symm

/-- **Requests in another order**: where it is up to the key and the direction alone whether an
event is made, and which one, requests may be sent in any order, in either way and whatever came
before.  Each gets the answer that it gets from a backend never called, the same in both orders.
The events posted are those made for the requests answered with success, in the order in which these
were sent, none lost and none twice; and if attaching a character does not look back either, they
are the same events. -/
theorem sendAllBy_orderless (hb : b.Makes make) (t t' : Trace σ ε)
    {es es' : List (Entry × Request)} (hperm : (es.map Prod.snd).Perm (es'.map Prod.snd)) :
    ∃ ds ds', FareAlone b make t es ds ∧ FareAlone b make t' es' ds' ∧
      ((es.map Prod.snd).zip (b.sendAllBy es t).1).Perm
        ((es'.map Prod.snd).zip (b.sendAllBy es' t').1) ∧
      (ds.filterMap Deed.draft?).Perm (ds'.filterMap Deed.draft?) ∧
      ∀ attach : ε → Code → ε,
        (∀ event character s, (b.attach event character s).1 = attach event character) →
          (ds.filterMap Deed.event?).Perm (ds'.filterMap Deed.event?) := by
  obtain ⟨ds, h⟩ := fareAlone_sendAllBy hb t es
  obtain ⟨ds', h'⟩ := fareAlone_sendAllBy hb t' es'
  have hdrafts := hperm.filterMap (Request.draft? make)
  refine ⟨ds, ds', h, h', ?_, ?_, fun attach ha => ?_⟩
  · rw [h.ran.answers_of_makes hb, h'.ran.answers_of_makes hb, ← List.map_prod_left_eq_zip,
      ← List.map_prod_left_eq_zip]
    exact hperm.map _
  · rwa [h.drafts, h'.drafts]
  · rw [h.events_eq ha, h'.events_eq ha]
    exact hdrafts.map _

/-- Recorders that make no event for an odd key, whatever their mode. -/
def evenRecorders : Backend Recorder Recorder.Event :=
  { Recorder.backend with
    create := fun key direction s => Recorder.create key direction { s with mode := .noOddKeys } }

/-- Their answers are those of a recorder in that mode, whatever happened before. -/
lemma makes_evenRecorders :
    evenRecorders.Makes fun key direction =>
      (Recorder.create key direction { mode := .noOddKeys }).1 := by
  intro key direction s
  simp only [evenRecorders, Recorder.create]
  cases Recorder.Mode.noOddKeys.refusal? key direction <;> rfl

/-- A key that is refused twice and two requests for another one. -/
def evenAndOdd : List (Entry × Request) :=
  [(.backend, ⟨97, 1, .down⟩), (.keyboard, ⟨98, 2, .up⟩), (.backend, ⟨97, 1, .down⟩),
    (.backend, ⟨98, 2, .down⟩)]

/-- They are sent to a recorder that has posted an event before, and backwards to a new one. -/
theorem sendAllBy_orderless_even :
    ∃ make, evenRecorders.Makes make ∧
      (evenAndOdd.map Prod.snd).Perm (evenAndOdd.reverse.map Prod.snd) ∧
      ∃ ds ds',
        FareAlone evenRecorders make { state := ⟨.noRelease, 3, [⟨4, .down, some 99⟩]⟩ }
          evenAndOdd ds ∧
        FareAlone evenRecorders make { state := {} } evenAndOdd.reverse ds' ∧
        ds.filterMap Deed.event? = [⟨2, .up, some 98⟩, ⟨2, .down, some 98⟩] ∧
        ds'.filterMap Deed.event? = [⟨2, .down, some 98⟩, ⟨2, .up, some 98⟩] := by
  have hattach : ∀ event character s,
      (evenRecorders.attach event character s).1 = { event with character := some character } :=
    fun _ _ _ => rfl
  have hperm : (evenAndOdd.map Prod.snd).Perm (evenAndOdd.reverse.map Prod.snd) := by decide
  obtain ⟨ds, ds', h, h', -⟩ := sendAllBy_orderless makes_evenRecorders
    { state := ⟨.noRelease, 3, [⟨4, .down, some 99⟩]⟩ } { state := {} } hperm
  exact ⟨_, makes_evenRecorders, hperm, ds, ds', h, h', (h.events_eq hattach).trans (by decide),
    (h'.events_eq hattach).trans (by decide)⟩

/-- The same recorders, but what they attach is how often they were asked for an event. -/
def countingRecorders : Backend Recorder Recorder.Event :=
  { evenRecorders with
    attach := fun event _ s => ({ event with character := some (.ofNat s.attempts) }, s) }

/-- Whether they make an event is up to the request, but the order of the requests shows in the
events they post. -/
theorem not_perm_posted_countingRecorders :
    (∃ make, countingRecorders.Makes make) ∧
      (evenAndOdd.map Prod.snd).Perm (evenAndOdd.reverse.map Prod.snd) ∧
      (countingRecorders.sendAllBy evenAndOdd { state := {} }).2.calls.filterMap Call.posted? =
        [⟨2, .up, some 2⟩, ⟨2, .down, some 4⟩] ∧
      (countingRecorders.sendAllBy evenAndOdd.reverse { state := {} }).2.calls.filterMap
        Call.posted? = [⟨2, .down, some 1⟩, ⟨2, .up, some 3⟩] ∧
      ¬ ((countingRecorders.sendAllBy evenAndOdd { state := {} }).2.calls.filterMap
            Call.posted?).Perm
          ((countingRecorders.sendAllBy evenAndOdd.reverse { state := {} }).2.calls.filterMap
            Call.posted?) :=
  ⟨⟨_, makes_evenRecorders⟩, by decide, by decide, by decide, by decide⟩

end Backend

end Keystroke
