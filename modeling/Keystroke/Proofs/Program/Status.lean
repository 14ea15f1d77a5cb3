import Keystroke.Program
import Keystroke.Proofs.CommandLine.RequestError

/-!
What a run of the program ends with.

* `Shows`, `shows_requestErrorLines`: the lines about a bad request hold its message and all that
  lies behind it;
* `runOn_of_error`, `runOn_of_request_error`, `runOn_of_not_opened`, `runOn_of_opened`: how far a
  run gets on a host, by what its command line, its request and the host come to;
* `Ends`, `run_ends`: the statuses of the program, when a run ends with each of them and what it
  reports; success is never reported for an event that was not posted.

What a run asks of its host shows in the state of the host, which nothing else can change.  So a run
that leaves every host as it was has asked none of them for a keyboard.
-/

namespace Keystroke.Program

open CommandLine (Invocation Query RequestError Stop read)

/-! ### The lines about a bad request -/

/-- Lines show an error: its message first, and then everything that lies behind it, line by line
and moved in. -/
structure Shows (e : RequestError) (lines : List String) : Prop where
  message : lines.head? = some ("Error: " ++ e.message)
  alone : e.causes = [] → lines.tail = []
  causes : e.causes ≠ [] → lines.tail = "" :: "Caused by:" :: e.causes.flatMap fun cause =>
    (cause.toList.splitOn '\n').map fun line => "    " ++ String.ofList (Text.chomp line)

/-- The first line is the message, which has no line feeds in it. -/
lemma lines_error_message (e : RequestError) :
    Text.lines ("Error: " ++ e.message) = ["Error: " ++ e.message] := by
  refine Text.lines_eq_singleton fun c hc => ?_
  rw [String.toList_append, List.mem_append] at hc
  rcases hc with hc | hc
  · exact Text.Plain.le_toNat (by decide : Text.Plain "Error: ") c hc
  · exact e.le_toNat_of_mem_message c hc

lemma indented_eq (cause : String) :
    indented cause =
      (cause.toList.splitOn '\n').map fun line => "    " ++ String.ofList (Text.chomp line) := by
  rw [indented, Text.lines_eq_splitOn, List.map_map]
  rfl

/-- What is printed about a bad request shows its error. -/
lemma shows_requestErrorLines (e : RequestError) : Shows e (requestErrorLines e) := by
  rw [requestErrorLines, lines_error_message]
  cases hc : e.causes with
  | nil => exact ⟨rfl, fun _ => rfl, fun h => absurd hc h⟩
  | cons cause causes =>
      refine ⟨rfl, fun h => absurd (hc.symm.trans h) (List.cons_ne_nil _ _), fun _ => ?_⟩
      simp [hc, ← indented_eq]

/-! ### Runs on a host -/

section

variable {τ : Type} (host : Host τ) {args : List String} {i : Invocation} {r : Request}
  {keyboard : Keyboard τ} {state state' : τ}

lemma runOn_of_error {stop : Stop} (h : read args = .error stop) :
    runOn host args state = (stopped stop, state) := by
  rw [runOn, h]

/-- A request that cannot be made out ends a run before a keyboard is asked for. -/
lemma runOn_of_request_error (h : read args = .ok i) {e : RequestError}
    (he : i.request = .error e) :
    runOn host args state = ({ status := failure, errors := requestErrorLines e }, state) := by
  simp only [runOn, h, invokeOn, he]

lemma runOn_of_not_opened (h : read args = .ok i) (hr : i.request = .ok r) {e : PostError}
    (ho : host.openKeyboard i.settings state = (.error e, state')) :
    runOn host args state =
      ({ status := failure, output := logLines (notOpened e) }, state') := by
  simp only [runOn, h, invokeOn, hr, ho]

lemma runOn_of_opened (h : read args = .ok i) (hr : i.request = .ok r)
    (ho : host.openKeyboard i.settings state = (.ok keyboard, state')) :
    runOn host args state = post keyboard r state' := by
  simp only [runOn, h, invokeOn, hr, ho]

lemma status_post_eq_zero_iff :
    (post keyboard r state).1.status = 0 ↔ (keyboard.send r state).1 = .ok () := by
  rw [post]
  rcases keyboard.send r state with ⟨_ | _, _⟩ <;> simp [failure, success]

/-- Without a request a host does not matter, and is left as it was. -/
lemma runOn_of_no_request (h : ∀ i r, read args = .ok i → i.request ≠ .ok r) :
    runOn host args state = (run args, state) := by
  rw [run]
  cases hread : read args with
  | error stop => rw [runOn_of_error _ hread, runOn_of_error _ hread]
  | ok i =>
      cases hrequest : i.request with
      | error e =>
          rw [runOn_of_request_error _ hread hrequest, runOn_of_request_error _ hread hrequest]
      | ok r => exact absurd hrequest (h i r hread)

/-- A run succeeds with the answer to a query or with a request that was posted. -/
lemma status_runOn_eq_zero_iff :
    (runOn host args state).1.status = 0 ↔
      (∃ q, read args = .error (.query q)) ∨
        ∃ i r keyboard state', read args = .ok i ∧ i.request = .ok r ∧
          host.openKeyboard i.settings state = (.ok keyboard, state') ∧
          (keyboard.send r state').1 = .ok () := by
  cases hread : read args with
  | error stop =>
      rw [runOn_of_error host hread]
      cases stop <;> simp [stopped, success, misuse]
  | ok i =>
      cases hrequest : i.request with
      | error e =>
          rw [runOn_of_request_error host hread hrequest]
          simp [failure, hrequest]
      | ok r =>
          rcases hopen : host.openKeyboard i.settings state with ⟨e | keyboard, state'⟩
          · rw [runOn_of_not_opened host hread hrequest hopen]
            simp [failure, hopen]
          · rw [runOn_of_opened host hread hrequest hopen, status_post_eq_zero_iff]
            simp [hrequest, hopen]

end

/-! ### Runs on the platform without backends -/

section

variable {args : List String} {i : Invocation}

lemma run_of_error {stop : Stop} (h : read args = .error stop) : run args = stopped stop := by
  rw [run, runOn_of_error _ h]

lemma run_of_request_error (h : read args = .ok i) {e : RequestError} (he : i.request = .error e) :
    run args = { status := failure, errors := requestErrorLines e } := by
  rw [run, runOn_of_request_error _ h he]

lemma run_of_request (h : read args = .ok i) {r : Request} (hr : i.request = .ok r) :
    run args =
      ⟨failure, ["ERROR keysend: Cannot create key injector: Platform not supported"], []⟩ := by
  have hlines : logLines (notOpened .noBackend) =
      ["ERROR keysend: Cannot create key injector: Platform not supported"] := by decide +kernel
  rw [run, runOn_of_not_opened backendless h hr rfl, hlines]

lemma status_of_ok (h : read args = .ok i) : (run args).status = failure := by
  cases hrequest : i.request with
  | error e => rw [run_of_request_error h hrequest]
  | ok r => rw [run_of_request h hrequest]

/-- The status tells how far the command line was read. -/
lemma status_eq (args : List String) :
    (run args).status =
      match read args with
      | .error (.query _) => success
      | .error (.usage _) => misuse
      | .ok _ => failure := by
  cases hread : read args with
  | error stop =>
      rw [run_of_error hread]
      cases stop <;> rfl
  | ok i => exact status_of_ok hread

lemma notOpened_notMem_answer (q : Query) :
    "ERROR keysend: Cannot create key injector: Platform not supported" ∉ q.answer := by
  cases q <;> decide +kernel

lemma notOpened_mem_output_iff :
    "ERROR keysend: Cannot create key injector: Platform not supported" ∈ (run args).output ↔
      ∃ i r, read args = .ok i ∧ i.request = .ok r := by
  cases hread : read args with
  | error stop =>
      rw [run_of_error hread]
      cases stop with
      | query q => simpa [stopped] using notOpened_notMem_answer q
      | usage e => simp [stopped]
  | ok i =>
      cases hrequest : i.request with
      | error e => simp [run_of_request_error hread hrequest, hrequest]
      | ok r => simp [run_of_request hread hrequest, hrequest]

/-- How a run of a command line ends. -/
structure Ends (args : List String) : Prop where
  answered : (run args).status = 0 ↔ ∃ q, read args = .error (.query q)
  misused : (run args).status = 2 ↔ ∃ e, read args = .error (.usage e)
  failed : (run args).status = 1 ↔ ∃ i, read args = .ok i
  /-- A bad request is reported, with all that lies behind it. -/
  badRequest : ∀ i e, read args = .ok i → i.request = .error e →
    (run args).status = 1 ∧ (run args).output = [] ∧ Shows e (run args).errors
  /-- Without a request a run is the same on every host and leaves it as it was, so that no keyboard
  was asked for. -/
  unopened : (∀ i r, read args = .ok i → i.request ≠ .ok r) →
    ∀ {τ : Type} (host : Host τ) (state : τ), runOn host args state = (run args, state)
  /-- With a request a keyboard is asked for, in vain. -/
  goodRequest : ∀ i r, read args = .ok i → i.request = .ok r →
    Platform.openKeyboard i.settings = .error .noBackend ∧
      run args = { status := 1,
                   output := ["ERROR keysend: Cannot create key injector: Platform not supported"],
                   errors := [] } ∧
      ∀ {τ : Type} (host : Host τ) (state state' : τ) (e : PostError),
        host.openKeyboard i.settings state = (.error e, state') →
          (runOn host args state).1.status = 1 ∧ (runOn host args state).2 = state'
  /-- That the platform has no backend is logged for good requests, and for nothing else. -/
  logged : "ERROR keysend: Cannot create key injector: Platform not supported" ∈ (run args).output ↔
    ∃ i r, read args = .ok i ∧ i.request = .ok r
  /-- On any platform, success means that a query was answered or an event posted. -/
  posted : ∀ {τ : Type} (host : Host τ) (state : τ), (runOn host args state).1.status = 0 ↔
    (∃ q, read args = .error (.query q)) ∨
      ∃ i r keyboard state', read args = .ok i ∧ i.request = .ok r ∧
        host.openKeyboard i.settings state = (.ok keyboard, state') ∧
        (keyboard.send r state').1 = .ok ()

end

/-- **Statuses**: every run of the program ends with the status of what its command line came to,
and a bad request is reported before a platform without backends. -/
theorem run_ends (args : List String) : Ends args where
  answered := by
    rw [status_eq]
    rcases read args with (_ | _) | _ <;> simp [success, misuse, failure]
  misused := by
    rw [status_eq]
    rcases read args with (_ | _) | _ <;> simp [success, misuse, failure]
  failed := by
    rw [status_eq]
    rcases read args with (_ | _) | _ <;> simp [success, misuse, failure]
  badRequest i e h he := by
    rw [run_of_request_error h he]
    exact ⟨rfl, rfl, shows_requestErrorLines e⟩
  unopened h _ host _ := runOn_of_no_request host h
  goodRequest i r h hr := by
    refine ⟨rfl, run_of_request h hr, fun host state state' e ho => ?_⟩
    rw [runOn_of_not_opened host h hr ho]
    exact ⟨rfl, rfl⟩
  logged := notOpened_mem_output_iff
  posted host _ := status_runOn_eq_zero_iff host

/-- A host with a keyboard that posts every event, and that keeps the settings it was asked for. -/
def obliging : Host (List Settings) where
  openKeyboard settings asked :=
    (.ok ⟨fun _ => "obliging", fun _ state => (.ok (), state)⟩, asked ++ [settings])

/-- A query in a cluster, and one that comes where a value is due; a request without a direction, on
a host that would post any; and a good request, without a backend and on that host. -/
theorem run_ends_edges :
    (run ["-vh"]).status = 0 ∧ (run ["-k", "-vh"]).status = 2 ∧
      runOn obliging ["-k1"] [] = (run ["-k1"], []) ∧
      (run ["-k1"]).errors.head? = some "Error: one of --down or --up is required" ∧
      (run ["-k0x24", "--char=13", "--up"]).status = 1 ∧
      "ERROR keysend: Cannot create key injector: Platform not supported" ∈
        (run ["-k0x24", "--char=13", "--up"]).output ∧
      (runOn obliging ["-k0x24", "--char=13", "--up"] []).1.status = 0 := by
  have hbad : read ["-k1"] = .ok { key := some 1 } := by decide
  have hgood : read ["-k0x24", "--char=13", "--up"] =
      .ok { key := some 0x24, char := some 13, up := true } := by decide
  have hnone : ∀ i r, read ["-k1"] = .ok i → i.request ≠ .ok r := by
    rintro i r hi
    obtain rfl := Except.ok.inj (hbad.symm.trans hi)
    rintro ⟨⟩
  refine ⟨(run_ends _).answered.mpr ⟨.help, by decide⟩,
    (run_ends _).misused.mpr ⟨.valueMissing .key, by decide⟩,
    (run_ends _).unopened hnone obliging [], ((run_ends _).badRequest _ _ hbad rfl).2.2.message,
    (run_ends _).failed.mpr ⟨_, hgood⟩, (run_ends _).logged.mpr ⟨_, _, hgood, rfl⟩,
    ((run_ends _).posted obliging []).mpr (.inr ⟨_, _, _, _, hgood, rfl, rfl, rfl⟩)⟩

end Keystroke.Program
