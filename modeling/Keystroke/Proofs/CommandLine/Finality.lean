import Keystroke.Proofs.CommandLine.Answers

/-!
Answers that stay, whatever arguments follow.

* `Stop.Immediate`: the stops that are met at an argument itself: a query, an argument that is no
  option, and a value where none is taken; their kinds are told by `Stop.details`;
* `Reading.not_immediate_of_finish`: what is looked at only once the next option or the end is met,
  values and what options exclude or need, gives no such stop;
* `read_append_eq_iff`: an answer stays if and only if it was given before the end was met;
* `final_of_immediate`: immediate stops stay.
-/

namespace Keystroke.CommandLine

/-- Stops that are met at an argument itself. -/
inductive Stop.Immediate : Stop → Prop where
  | query (q : Query) : Immediate (.query q)
  | unknown (argument : String) : Immediate (.usage (.unknown argument))
  | unexpectedValue (o : OptionName) (value : String) :
      Immediate (.usage (.unexpectedValue o value))

/-- They are known by their kind. -/
lemma Stop.immediate_iff (stop : Stop) :
    stop.Immediate ↔ stop.details.kind ∈
      ["DisplayHelp", "DisplayVersion", "UnknownArgument", "TooManyValues"] := by
  constructor
  · rintro (q | argument | ⟨o, value⟩)
    · cases q <;> simp [details]
    · simp [details, UsageError.details]
    · simp [details, UsageError.details]
  · intro h
    cases stop with
    | query q => exact .query q
    | usage e => cases e with
      | unknown argument => exact .unknown argument
      | unexpectedValue o value => exact .unexpectedValue o value
      | valueMissing | badValue | repeated | conflict | missing =>
          simp [details, UsageError.details] at h

namespace Reading

variable {r : Reading} {stop : Stop}

/-- A value is only refused as such or because its option was given before. -/
lemma not_immediate_of_takeValue {o : ValueOption} {v : String}
    (h : r.takeValue o v = .error stop) : ¬ stop.Immediate := by
  rcases takeValue_eq_error_iff.mp h with ⟨-, rfl⟩ | ⟨-, e, -, rfl⟩ <;> rintro ⟨⟩

lemma not_immediate_of_settle (h : r.settle = .error stop) : ¬ stop.Immediate := by
  rw [settle] at h
  split at h
  · cases h
  · obtain rfl := Except.error.inj h
    rintro ⟨⟩
  · exact not_immediate_of_takeValue h

/-- The check at the end only finds options that exclude or need one another. -/
lemma not_immediate_of_check {given : List Setting} {e : UsageError} (h : check given = some e) :
    ¬ (Stop.usage e).Immediate := by
  rw [check] at h
  split at h
  · rename_i e' hc
    obtain ⟨o, -, rfl⟩ := Option.map_eq_some_iff.mp hc
    obtain rfl := Option.some.inj h
    rintro ⟨⟩
  · rw [missing?] at h
    split_ifs at h
    obtain rfl := Option.some.inj h
    rintro ⟨⟩

/-- What is only looked at once all arguments are read gives no immediate stop. -/
lemma not_immediate_of_finish (h : r.finish = .error stop) : ¬ stop.Immediate := by
  rw [finish] at h
  split at h
  · rename_i hs
    obtain rfl := Except.error.inj h
    exact not_immediate_of_settle hs
  · split at h
    · rename_i hc
      obtain rfl := Except.error.inj h
      exact not_immediate_of_check hc
    · cases h

/-- An argument that is no option is met as such, whatever was read before. -/
lemma step_unknown (r : Reading) : r.step "--?" = .error (.usage (.unknown "--?")) := by
  cases hr : r.ended with
  | true =>
      rw [step, hr]
      rfl
  | false =>
      have hlong : r.step ("--" ++ "?") = r.long ['?'] := step_long hr (by decide)
      exact hlong

end Reading

/-- An immediate stop is met while arguments are read. -/
lemma readAll_of_immediate {args : List String} {stop : Stop} (h : read args = .error stop)
    (hs : stop.Immediate) : Reading.readAll {} args = .error stop := by
  rw [read] at h
  split at h
  · rename_i hr
    exact hr.trans (congrArg _ (Except.error.inj h))
  · exact absurd hs (Reading.not_immediate_of_finish h)

lemma read_append_of_readAll {args : List String} {stop : Stop}
    (h : Reading.readAll {} args = .error stop) (more : List String) :
    read (args ++ more) = .error stop := by
  rw [read, Reading.readAll_append, h]

/-- An answer stays whatever follows if and only if it was given before the end was met. -/
lemma read_append_eq_iff {args : List String} :
    (∀ more, read (args ++ more) = read args) ↔
      ∃ stop, Reading.readAll {} args = .error stop := by
  constructor
  · intro h
    cases hr : Reading.readAll {} args with
    | error stop => exact ⟨stop, rfl⟩
    | ok r =>
        -- an argument that is no option replaces every answer given at the end
        have hmore : read (args ++ ["--?"]) = .error (.usage (.unknown "--?")) := by
          rw [read, Reading.readAll_append, hr]
          simp only [Reading.readAll, Reading.step_unknown]
        have hfinish : r.finish = .error (.usage (.unknown "--?")) := by
          rw [← hmore, h, read, hr]
        exact absurd (.unknown _) (Reading.not_immediate_of_finish hfinish)
  · rintro ⟨stop, hr⟩ more
    have hread := read_append_of_readAll hr []
    rw [List.append_nil] at hread
    rw [hread, read_append_of_readAll hr more]

/-- **Answers that stay**: where arguments are answered by help or the version, as no option, or as
a value where none is taken, which the kind of the answer tells, they get the same answer whatever
arguments follow.  The answers that stay are just those given before the end of the arguments was
met. -/
theorem final_of_immediate (args : List String) :
    (∀ stop, Stop.Immediate stop → read args = .error stop →
      ∀ more, read (args ++ more) = .error stop) ∧
    ((∀ more, read (args ++ more) = read args) ↔
      ∃ stop, Reading.readAll {} args = .error stop) ∧
    ∀ stop : Stop, stop.Immediate ↔
      stop.details.kind ∈ ["DisplayHelp", "DisplayVersion", "UnknownArgument", "TooManyValues"] :=
  ⟨fun _ hs h more => read_append_of_readAll (readAll_of_immediate h hs) more,
    read_append_eq_iff, Stop.immediate_iff⟩

/-- A key that is no code waits for being looked at when an unknown option is met, and neither what
would settle it nor a whole request that follows matters.  By itself it is answered at the end, so
that its answer does not stay. -/
theorem final_of_immediate_pending :
    read ["-vk", "zz", "--bogus=1"] = .error (.usage (.unknown "--bogus")) ∧
      read (["-vk", "zz", "--bogus=1"] ++ ["--down", "--request=[97,0,\"up\"]"]) =
        .error (.usage (.unknown "--bogus")) ∧
      ¬ ∀ more, read (["-vk", "zz"] ++ more) = read ["-vk", "zz"] := by
  have h : read ["-vk", "zz", "--bogus=1"] = .error (.usage (.unknown "--bogus")) := by decide
  refine ⟨h, (final_of_immediate _).1 _ (.unknown _) h _, fun hmore => ?_⟩
  obtain ⟨stop, hstop⟩ := (final_of_immediate ["-vk", "zz"]).2.1.mp hmore
  have hread : Reading.readAll {} ["-vk", "zz"] =
      .ok { given := [.verbose], pending := some ⟨.key, some "zz"⟩ } := by decide
  rw [hread] at hstop
  cases hstop

end Keystroke.CommandLine
