import ComponentGen.Program.Run
import ComponentGen.Proofs.Files.Store
import ComponentGen.Proofs.Outcome

/-!
# What a run leaves behind

A run does everything that may fail before its one effect: printing the document, or writing it to
a file.  So a run that fails has printed nothing and has left every file as it was, and a run that
succeeds has done nothing but that effect, with a document that keeps the rules.
-/

namespace ComponentGen.Program

open Document Extraction Files

/-! ## Parts of a run, one after the other -/

namespace Action

variable {α β : Type} {before : World} {failed : World → Prop}

/-- What a part of a run, started in a given world, leaves: one world if it succeeds and another
one if it fails. -/
inductive Leaves (action : Action α) (before : World) (succeeded : α → World → Prop)
    (failed : World → Prop) : Prop where
  | done {value : α} {after : World} (result : action before = .ok value after)
      (holds : succeeded value after) : Leaves action before succeeded failed
  | notDone {reason : RunFailure} {after : World} (result : action before = .error reason after)
      (holds : failed after) : Leaves action before succeeded failed

theorem leaves_pure {value : α} {succeeded : α → World → Prop} (holds : succeeded value before) :
    (pure value : Action α).Leaves before succeeded failed :=
  .done rfl holds

theorem leaves_get : (get : Action World).Leaves before
    (fun value after => value = before ∧ after = before) failed :=
  .done rfl ⟨rfl, rfl⟩

/-- What the first part leaves is what the second one starts in, unless the first part fails. -/
theorem Leaves.bind {first : Action α} {next : α → Action β} {middle : α → World → Prop}
    {succeeded : β → World → Prop} (firstLeaves : first.Leaves before middle failed)
    (nextLeaves : ∀ value world, middle value world →
      (next value).Leaves world succeeded failed) :
    (first >>= next).Leaves before succeeded failed := by
  have sequence (result : EStateM.Result RunFailure World α) (here : first before = result) :
      (first >>= next) before = match result with
        | .ok value world => next value world
        | .error reason world => .error reason world := by
    simp only [Bind.bind, EStateM.bind, here]
    cases result <;> rfl
  cases firstLeaves with
  | done result holds =>
      cases nextLeaves _ _ holds with
      | done next holds => exact .done ((sequence _ result).trans next) holds
      | notDone next holds => exact .notDone ((sequence _ result).trans next) holds
  | notDone result holds => exact .notDone (sequence _ result) holds

theorem leaves_ofExcept {computed : Except RunFailure α} (unchanged : failed before) :
    (ofExcept computed : Action α).Leaves before
      (fun value after => computed = .ok value ∧ after = before) failed := by
  cases computed with
  | ok value => exact .done rfl ⟨rfl, rfl⟩
  | error reason => exact .notDone rfl unchanged

/-- A change of the store prints nothing, and leaves the store that the change leaves. -/
theorem leaves_ofChange {failure : FileError → RunFailure} {change : Store.Change Unit}
    {succeeded : Unit → World → Prop}
    (changed : ∀ store, change before.store = .ok () store → succeeded () { before with store })
    (notChanged : ∀ reason store, change before.store = .error reason store →
      failed { before with store }) :
    (ofChange failure change).Leaves before succeeded failed := by
  cases result : change before.store with
  | ok _ store => exact .done (by rw [ofChange, result]) (changed store result)
  | error reason store =>
      exact .notDone (by rw [ofChange, result]) (notChanged reason store result)

end Action

/-! ## Worlds before and after -/

/-- Whether nothing was printed and every file has the content that it had. -/
structure World.Untouched (before after : World) : Prop where
  stdout : after.stdout = before.stdout
  content : after.store.content? = before.store.content?

theorem World.Untouched.refl (w : World) : w.Untouched w :=
  ⟨rfl, rfl⟩

/-- Whether nothing was printed, a path names a file with a given text, and every other file has
the content that it had. -/
structure World.OnlyWritten (path text : String) (before after : World) : Prop where
  stdout : after.stdout = before.stdout
  written : after.store.read path = .ok text
  others : ∀ place, after.store.locate path ≠ .ok place →
    after.store.content? place = before.store.content? place

/-- Whether a text was printed, and the store is as it was. -/
structure World.OnlyPrinted (text : String) (before after : World) : Prop where
  stdout : after.stdout = before.stdout ++ text
  store : after.store = before.store

/-! ## The effects of a run -/

theorem leaves_makeParent (path : String) (before : World) :
    (makeParent path).Leaves before (fun _ after => before.Untouched after)
      before.Untouched := by
  unfold makeParent
  split
  · exact Action.leaves_pure (.refl before)
  case h_2 directory _ =>
    have content := Store.content?_makeDirectories directory before.store
    apply Action.leaves_ofChange
    · intro store made
      rw [made] at content
      exact ⟨rfl, content⟩
    · intro reason store failed
      rw [failed] at content
      exact ⟨rfl, content⟩

/-- Only the last step of writing a document touches a file. -/
theorem leaves_putDocument (path text : String) (before : World) :
    (putDocument path text).Leaves before (fun _ after => before.OnlyWritten path text after)
      before.Untouched := by
  apply (leaves_makeParent path before).bind
  intro _ world untouched
  apply Action.leaves_ofChange
  · intro store written
    rcases Store.read_of_write written with ⟨read, others⟩
    refine ⟨untouched.stdout, read, ?_⟩
    intro place elsewhere
    rw [others place elsewhere, untouched.content]
  · intro reason store failed
    rw [Store.eq_of_write_error failed]
    exact untouched

/-- What is left when a text is delivered. -/
def World.Delivered (config : Config) (toStdout : Bool) (text : String) (before after : World) :
    Prop :=
  if toStdout then before.OnlyPrinted text after
  else before.OnlyWritten config.componentFile text after

theorem leaves_deliver (config : Config) (toStdout : Bool) (text : String) (before : World) :
    (deliver config toStdout text).Leaves before
      (fun _ after => before.Delivered config toStdout text after) before.Untouched := by
  cases toStdout with
  | false => exact leaves_putDocument config.componentFile text before
  | true => exact .done rfl ⟨rfl, rfl⟩

/-- Documents are made only if they keep the rules. -/
theorem validate_of_makeDocument {store : Store} {config : Config} {report : Report}
    (made : makeDocument store config = .ok report) : report.component.validate = .ok () := by
  unfold makeDocument at made
  simp only [Outcome.bind_eq_ok_iff, Outcome.mapError_eq_ok_iff, Outcome.pure_eq_ok_iff] at made
  obtain ⟨_, _, kind, _, tree, _, prior, _, report, _, _, valid, rfl⟩ := made
  exact valid

/-- A document that can be made is delivered. -/
theorem produce_of_makeDocument {config : Config} {before : World} {report : Report}
    (made : makeDocument before.store config = .ok report) (format : Format) (toStdout : Bool) :
    produce config format toStdout before =
      match deliver config toStdout (report.component.render format) before with
      | .ok _ after => .ok report after
      | .error reason after => .error reason after := by
  have returned : ofExcept (Except.ok report) = (pure report : Action Report) := rfl
  have delivered : (deliver config toStdout (report.component.render format)).run before =
      deliver config toStdout (report.component.render format) before := rfl
  change (produce config format toStdout).run before = _
  simp only [produce, EStateM.run_bind, EStateM.run_get, made, returned, EStateM.run_pure]
  rw [delivered]
  cases deliver config toStdout (report.component.render format) before <;> rfl

theorem print_of_makeDocument {config : Config} {before : World} {report : Report}
    (made : makeDocument before.store config = .ok report) (format : Format) :
    produce config format true before =
      .ok report { before with stdout := before.stdout ++ report.component.render format } := by
  rw [produce_of_makeDocument made]
  rfl

/-- A run that succeeds returns the document that it has made. -/
theorem makeDocument_of_produce {config : Config} {format : Format} {toStdout : Bool}
    {before after : World} {report : Report}
    (run : produce config format toStdout before = .ok report after) :
    makeDocument before.store config = .ok report := by
  cases made : makeDocument before.store config with
  | error reason =>
      change (produce config format toStdout).run before = _ at run
      simp only [produce, EStateM.run_bind, EStateM.run_get, made] at run
      cases run
  | ok document =>
      rw [produce_of_makeDocument made] at run
      cases delivered : deliver config toStdout (document.component.render format) before with
      | ok _ world =>
          rw [delivered] at run
          cases run
          rfl
      | error reason world =>
          rw [delivered] at run
          cases run

/-- All or nothing: a run that fails has printed nothing and has left every file as it was, and a
run that succeeds has made a document that keeps the rules and has either printed it or changed the
file it is for, and nothing else. -/
theorem leaves_produce (config : Config) (format : Format) (toStdout : Bool) (before : World) :
    (produce config format toStdout).Leaves before
      (fun report after =>
        makeDocument before.store config = .ok report ∧ report.component.validate = .ok () ∧
          before.Delivered config toStdout (report.component.render format) after)
      before.Untouched := by
  unfold produce
  apply Action.leaves_get.bind
  rintro _ _ ⟨rfl, rfl⟩
  apply (Action.leaves_ofExcept (.refl _)).bind
  rintro report _ ⟨made, rfl⟩
  apply (leaves_deliver config toStdout (report.component.render format) _).bind
  intro _ after delivered
  exact Action.leaves_pure ⟨made, validate_of_makeDocument made, delivered⟩

end ComponentGen.Program
