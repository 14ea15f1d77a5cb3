import Keystroke.Proofs.Settings.Documents
import Keystroke.Settings.Change
import Mathlib.Data.List.Induction

/-!
Runs of steps that change settings.

* `Change.SetsTap`, `Change.SetsSource`: what a step sets the tap and the source to, if it does not
  fail;
* `Latest`: the value of a field after a run, which is what the last step that sets it gives;
* `after_tap_iff`, `after_source_iff`: one step either sets a field or leaves it, and
  `afterAll_iff_latest`: so does a run, by induction from its end;
* `afterAll_latest`: both fields after a run from the default, and what steps do not do.
-/

namespace Keystroke.Settings

open Json

/-! ### Steps -/

/-- A step that does not fail sets the tap. -/
def Change.SetsTap : Change → Tap → Prop
  | .tap name, t => Tap.parse name = .ok t
  | .source _, _ => False
  | .reset, t => t = .session
  | .replace json, t => ∃ s, ofJson json = .ok s ∧ s.tap = t

/-- A step that does not fail sets the source. -/
def Change.SetsSource : Change → Source → Prop
  | .tap _, _ => False
  | .source name, t => Source.parse name = .ok t
  | .reset, t => t = .hidSystem
  | .replace json, t => ∃ s, ofJson json = .ok s ∧ s.source = t

variable {s : Settings} {c : Change}

/-- A step sets the tap or leaves it as it was. -/
lemma after_tap_iff {t : Tap} :
    (s.after c).tap = t ↔ c.SetsTap t ∨ (∀ u, ¬ c.SetsTap u) ∧ s.tap = t := by
  cases c with
  | tap name =>
      rw [after, apply]
      cases h : Tap.parse name <;> simp [Change.SetsTap, h, withTap]
  | source name =>
      rw [after, apply]
      cases h : Source.parse name <;> simp [Change.SetsTap, withSource]
  | reset => simp [after, apply, Change.SetsTap, eq_comm]
  | replace json =>
      rw [after, apply]
      cases h : ofJson json <;> simp [Change.SetsTap, h]

/-- A step sets the source or leaves it as it was. -/
lemma after_source_iff {t : Source} :
    (s.after c).source = t ↔ c.SetsSource t ∨ (∀ u, ¬ c.SetsSource u) ∧ s.source = t := by
  cases c with
  | tap name =>
      rw [after, apply]
      cases h : Tap.parse name <;> simp [Change.SetsSource, withTap]
  | source name =>
      rw [after, apply]
      cases h : Source.parse name <;> simp [Change.SetsSource, h, withSource]
  | reset => simp [after, apply, Change.SetsSource, eq_comm]
  | replace json =>
      rw [after, apply]
      cases h : ofJson json <;> simp [Change.SetsSource, h]

/-- Whether a step fails is up to the step alone. -/
lemma apply_eq_error {s' : Settings} {e : ChangeError} (h : s.apply c = .error e) :
    s'.apply c = .error e := by
  cases c with
  | tap name =>
      rw [apply] at h ⊢
      cases hname : Tap.parse name <;> simp_all
  | source name =>
      rw [apply] at h ⊢
      cases hname : Source.parse name <;> simp_all
  | reset => cases h
  | replace json => exact h

/-- A step that fails leaves everything as it was. -/
lemma after_of_error {e : ChangeError} (h : s.apply c = .error e) : s.after c = s := by
  rw [after, h]

/-- Steps that set the tap and the source by name do not get in the way of one another. -/
lemma after_tap_source (s : Settings) (tap source : String) :
    (s.after (.tap tap)).after (.source source) = (s.after (.source source)).after (.tap tap) := by
  simp only [after, apply]
  cases Tap.parse tap <;> cases Source.parse source <;> rfl

/-! ### Runs -/

lemma afterAll_append (cs cs' : List Change) :
    s.afterAll (cs ++ cs') = (s.afterAll cs).afterAll cs' :=
  List.foldl_append

lemma afterAll_concat (cs : List Change) : s.afterAll (cs ++ [c]) = (s.afterAll cs).after c :=
  afterAll_append cs [c]

section Latest

variable {β : Type} {Sets : Change → β → Prop} {old x : β} {cs : List Change}

/-- The value of a field after some steps: the one that the last of the steps that set it gives, or
the one it had before if none of them does. -/
inductive Latest (Sets : Change → β → Prop) (old : β) : List Change → β → Prop where
  | untouched {cs : List Change} (h : ∀ c ∈ cs, ∀ x, ¬ Sets c x) : Latest Sets old cs old
  | set {before later : List Change} {c : Change} {x : β} (hc : Sets c x)
      (h : ∀ c' ∈ later, ∀ y, ¬ Sets c' y) : Latest Sets old (before ++ c :: later) x

lemma latest_nil_iff : Latest Sets old [] x ↔ old = x := by
  constructor
  · generalize hcs : ([] : List Change) = cs
    rintro (_ | _)
    · rfl
    · simp at hcs
  · rintro rfl
    exact .untouched (by simp)

/-- The last step decides if it sets the field, and is of no account otherwise. -/
lemma latest_concat_iff : Latest Sets old (cs ++ [c]) x ↔
    Sets c x ∨ (∀ y, ¬ Sets c y) ∧ Latest Sets old cs x := by
  constructor
  · generalize hcs : cs ++ [c] = all
    rintro (h | @⟨before, later, c', x, hc, h⟩)
    · subst hcs
      exact .inr ⟨h c (by simp), .untouched fun c' hc' => h c' (by simp [hc'])⟩
    · rcases List.eq_nil_or_concat later with rfl | ⟨later, c'', rfl⟩
      · obtain ⟨-, hlast⟩ := List.append_inj' hcs rfl
        obtain rfl : c = c' := by simpa using hlast
        exact .inl hc
      · have hall : cs ++ [c] = (before ++ c' :: later) ++ [c''] := by simpa using hcs
        obtain ⟨rfl, hlast⟩ := List.append_inj' hall rfl
        obtain rfl : c = c'' := by simpa using hlast
        exact .inr ⟨h c (by simp), .set hc fun c' hc' => h c' (by simp [hc'])⟩
  · rintro (hc | ⟨hc, h | @⟨before, later, c', x, hc', h⟩⟩)
    · exact .set hc (by simp)
    · refine .untouched fun c' hc' => ?_
      rcases List.mem_append.mp hc' with hc' | hc'
      · exact h c' hc'
      · exact List.mem_singleton.mp hc' ▸ hc
    · rw [List.append_assoc, List.cons_append]
      refine .set hc' fun c'' hc'' => ?_
      rcases List.mem_append.mp hc'' with hc'' | hc''
      · exact h c'' hc''
      · exact List.mem_singleton.mp hc'' ▸ hc

/-- A field that each step sets or leaves has its latest value after a run. -/
lemma afterAll_iff_latest {field : Settings → β}
    (hstep : ∀ s c x, field (s.after c) = x ↔ Sets c x ∨ (∀ y, ¬ Sets c y) ∧ field s = x)
    (s : Settings) (cs : List Change) (x : β) :
    field (s.afterAll cs) = x ↔ Latest Sets (field s) cs x := by
  induction cs using List.reverseRecOn generalizing x with
  | nil => exact latest_nil_iff.symm
  | append_singleton cs c ih => rw [afterAll_concat, hstep, latest_concat_iff, ih]

end Latest

/-! ### Documents -/

/-- What replaces the settings sets both fields, to the default where it leaves them out. -/
lemma sets_replace_iff {d : Document} {tap : Option Tap} {source : Option Source}
    (h : ∀ m ∈ d.value.members, ∃ name, m.name.Spells name) (hd : States d.value tap source) :
    (∀ t, (Change.replace (String.ofList d.text)).SetsTap t ↔ t = tap.getD .session) ∧
      ∀ t, (Change.replace (String.ofList d.text)).SetsSource t ↔
        t = source.getD .hidSystem := by
  have hread := (ofJson_eq_ok_iff h).mpr ⟨tap, source, hd, (ofGiven_eq tap source).symm⟩
  constructor <;> intro t <;> simp [Change.SetsTap, Change.SetsSource, hread, eq_comm]

/-- **Runs of changes**: after any run from the default, the tap is what the last step that set it
gave, and so is the source; a document that replaces the settings sets both, to the default where it
leaves them out.  A step that fails might as well not be there.  A step for one field leaves the
other, and two steps that stand next to each other, one for each field, may change places. -/
theorem afterAll_latest (cs : List Change) :
    (∀ t, (afterAll {} cs).tap = t ↔ Latest Change.SetsTap .session cs t) ∧
    (∀ t, (afterAll {} cs).source = t ↔ Latest Change.SetsSource .hidSystem cs t) ∧
    (∀ (d : Document) tap source, (∀ m ∈ d.value.members, ∃ name, m.name.Spells name) →
      States d.value tap source →
        (∀ t, (Change.replace (String.ofList d.text)).SetsTap t ↔ t = tap.getD .session) ∧
          ∀ t, (Change.replace (String.ofList d.text)).SetsSource t ↔
            t = source.getD .hidSystem) ∧
    (∀ (s : Settings) c e, s.apply c = .error e →
      s.after c = s ∧ ∀ later, afterAll {} (cs ++ c :: later) = afterAll {} (cs ++ later)) ∧
    (∀ (s : Settings) name,
      (s.after (.tap name)).source = s.source ∧ (s.after (.source name)).tap = s.tap) ∧
    ∀ tap source later, afterAll {} (cs ++ .tap tap :: .source source :: later) =
      afterAll {} (cs ++ .source source :: .tap tap :: later) := by
  refine ⟨?_, ?_, fun d _ _ => sets_replace_iff, fun s c e h => ⟨after_of_error h, ?_⟩,
    fun s name => ⟨?_, ?_⟩, ?_⟩
  · exact afterAll_iff_latest (fun _ _ _ => after_tap_iff) {} cs
  · exact afterAll_iff_latest (fun _ _ _ => after_source_iff) {} cs
  · intro later
    rw [afterAll_append, afterAll_append]
    exact congrArg (afterAll · later) (after_of_error (apply_eq_error h))
  · exact after_source_iff.mpr (.inr ⟨fun _ => id, rfl⟩)
  · exact after_tap_iff.mpr (.inr ⟨fun _ => id, rfl⟩)
  · intro tap source later
    rw [afterAll_append, afterAll_append]
    exact congrArg (afterAll · later) (after_tap_source _ tap source)

/-- A tap in capitals, a document that leaves the tap out, a tap that there is not, and a source by its
short name. -/
def mixed : List Change :=
  [.tap "HID", .replace (String.ofList withoutTap.text), .tap "nowhere", .source "Combined"]

theorem afterAll_latest_mixed : afterAll {} mixed = ⟨.session, .combinedSession⟩ ∧
    afterAll {} (mixed ++ [.tap "nowhere"]) = ⟨.session, .combinedSession⟩ := by
  obtain ⟨htap, hsource, hdoc, hfails, -⟩ := afterAll_latest mixed
  have hnowhere : Tap.parse "nowhere" = .error (.badRequest "unknown tap location: nowhere") := by
    decide +kernel
  have hcombined : Source.parse "Combined" = .ok .combinedSession := by
    decide +kernel
  have hlast : Latest Change.SetsTap .session
      ([.tap "HID"] ++ .replace (String.ofList withoutTap.text) ::
        [.tap "nowhere", .source "Combined"]) .session :=
    .set (((hdoc _ _ _ spells_withoutTap states_withoutTap).1 _).mpr rfl)
      (by simp [Change.SetsTap, hnowhere])
  have hset : Latest Change.SetsSource .hidSystem
      ([.tap "HID", .replace (String.ofList withoutTap.text), .tap "nowhere"] ++
        .source "Combined" :: []) .combinedSession :=
    .set hcombined (by simp)
  have hmixed : afterAll {} mixed = ⟨.session, .combinedSession⟩ :=
    congrArg₂ Settings.mk ((htap _).mpr hlast) ((hsource _).mpr hset)
  have hfail : apply {} (.tap "nowhere") =
      .error (.name (.badRequest "unknown tap location: nowhere")) := by
    rw [apply, hnowhere]
  refine ⟨hmixed, ?_⟩
  rw [(hfails _ _ _ hfail).2 [], List.append_nil, hmixed]

end Keystroke.Settings
