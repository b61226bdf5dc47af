import ComponentGen.Proofs.Extraction.Warnings
import ComponentGen.Proofs.Number.Numeral

/-!
# Versions in annotations

A part of a version is given as a number or as a text that is one.  Numbers from zero to the
largest one of 32 bits count, and negative ones stand for no number.  But the number is cut to 32
bits before its sign is looked at, so a negative number that needs more than 32 bits is warned
about like a number that is too large or a value that is no number at all.
-/

namespace ComponentGen.Extraction

open Document Number Outcome Source Text

/-! ## Whole numbers in metadata -/

/-- A value that is a whole number, or a text that is a decimal numeral of one with nothing but
white space around it. -/
inductive StatesInteger : AnnotationValue → Int → Prop where
  | number {n : Int} : StatesInteger (.int n) n
  | text {t : String} {left numeral right : List Char} {n : Int}
      (split : t.toList = left ++ numeral ++ right) (before : ∀ c ∈ left, isSpace c = true)
      (decimal : IsDecimal n numeral) (behind : ∀ c ∈ right, isSpace c = true) :
      StatesInteger (.text t) n

theorem isSpace_of_isDigit {c : Char} (digit : c.isDigit = true) : isSpace c = false := by
  have range := range_of_isDigit digit
  simp only [isSpace, Bool.or_eq_false_iff, Bool.and_eq_false_iff, beq_eq_false_iff_ne,
    decide_eq_false_iff_not]
  omega

/-- There is no white space in a numeral. -/
theorem isSpace_of_isDecimal {n : Int} {numeral : List Char} (decimal : IsDecimal n numeral) :
    ∀ c ∈ numeral, isSpace c = false := by
  cases decimal with
  | unsigned _ digits => exact fun c member => isSpace_of_isDigit (digits c member)
  | plus _ digits =>
      exact List.forall_mem_cons.mpr
        ⟨by decide, fun c member => isSpace_of_isDigit (digits c member)⟩
  | minus _ digits =>
      exact List.forall_mem_cons.mpr
        ⟨by decide, fun c member => isSpace_of_isDigit (digits c member)⟩

theorem statesInteger_text_iff {t : String} {n : Int} :
    StatesInteger (.text t) n ↔ intOfDigits? 10 (trim t).toList = some n := by
  rw [intOfDigits?_eq_some_iff]
  constructor
  · rintro (_ | ⟨split, before, decimal, behind⟩)
    rwa [toList_trim_of_append split before (isTrimmed_of_forall (isSpace_of_isDecimal decimal))
      behind]
  · intro decimal
    rcases exists_toList_eq_trim t with ⟨left, right, split, before, behind⟩
    exact .text split before decimal behind

/-- A value states one number only. -/
theorem StatesInteger.unique {given : AnnotationValue} {n k : Int}
    (states : StatesInteger given n) (other : StatesInteger given k) : n = k := by
  cases given with
  | int m =>
      cases states
      cases other
      rfl
  | text t =>
      rw [statesInteger_text_iff] at states other
      exact Option.some.inj (states.symm.trans other)
  | _ => cases states

/-- The numbers that are read from values are those of 32 bits that they state. -/
theorem numberSaid?_eq_some_iff {given : AnnotationValue} {n : Int} :
    numberSaid? given = some n ↔ StatesInteger given n ∧ fitsInt32 n = true := by
  cases given with
  | int m =>
      rw [numberSaid?]
      constructor
      · intro read
        split at read
        case isTrue fits =>
          cases read
          exact ⟨.number, fits⟩
        case isFalse => cases read
      · rintro ⟨states, fits⟩
        cases states
        exact if_pos fits
  | text t =>
      rw [numberSaid?, int32OfText?, Option.filter_eq_some_iff, statesInteger_text_iff]
  | _ =>
      constructor
      · intro read
        cases read
      · rintro ⟨states, _⟩
        cases states

/-- No number is read from a value exactly if each number that it states needs more than 32
bits. -/
theorem numberSaid?_eq_none_iff {given : AnnotationValue} :
    numberSaid? given = none ↔
      ∀ n, StatesInteger given n → n < -2147483648 ∨ 2147483647 < n := by
  simp only [Option.eq_none_iff_forall_ne_some, ne_eq, numberSaid?_eq_some_iff, not_and]
  constructor
  · intro large n states
    have outside := large n states
    simp only [fitsInt32, Bool.and_eq_true, decide_eq_true_eq] at outside
    omega
  · intro large n states fits
    have outside := large n states
    simp only [fitsInt32, Bool.and_eq_true, decide_eq_true_eq] at fits
    omega

/-! ## One part of a version -/

/-- What the annotation of a service takes a whole number for.  A negative number stands for none,
unless it needs more than 32 bits. -/
structure TakesInteger (given : AnnotationValue) (n : Int) (taken : VersionNumber) : Prop where
  negative : -2147483648 ≤ n → n < 0 → taken = .unset
  value : 0 ≤ n → n ≤ 2147483647 → taken = .value n
  tooLarge : 2147483647 < n → taken = .malformed (shownValue given)
  tooSmall : n < -2147483648 → taken = .malformed (shownValue given)

theorem ofAnnotationValue_of_some {given : AnnotationValue} {n : Int}
    (said : numberSaid? given = some n) :
    VersionNumber.ofAnnotationValue (some given) = if 0 ≤ n then .value n else .unset := by
  rw [Strategy.ofAnnotationValue_eq none, Strategy.versionNumber, said]
  simp [Strategy.admitsVersion]

theorem ofAnnotationValue_of_none {given : AnnotationValue} (said : numberSaid? given = none) :
    VersionNumber.ofAnnotationValue (some given) = .malformed (shownValue given) := by
  rw [Strategy.ofAnnotationValue_eq none, Strategy.versionNumber, said]

/-- A number that needs more than 32 bits is not read, whatever its sign. -/
theorem StatesInteger.numberSaid?_eq_none {given : AnnotationValue} {n : Int}
    (states : StatesInteger given n) (outside : n < -2147483648 ∨ 2147483647 < n) :
    numberSaid? given = none := by
  rw [numberSaid?_eq_none_iff]
  intro k other
  rwa [← states.unique other]

theorem StatesInteger.numberSaid? {given : AnnotationValue} {n : Int}
    (states : StatesInteger given n) (above : -2147483648 ≤ n) (below : n ≤ 2147483647) :
    numberSaid? given = some n := by
  rw [numberSaid?_eq_some_iff]
  exact ⟨states, by simp [fitsInt32, above, below]⟩

theorem takesInteger_ofAnnotationValue {given : AnnotationValue} {n : Int}
    (states : StatesInteger given n) :
    TakesInteger given n (.ofAnnotationValue (some given)) := by
  constructor
  case negative =>
    intro above negative
    rw [ofAnnotationValue_of_some (states.numberSaid? above (by omega)), if_neg (by omega)]
  case value =>
    intro natural below
    rw [ofAnnotationValue_of_some (states.numberSaid? (by omega) below), if_pos natural]
  case tooLarge =>
    intro large
    exact ofAnnotationValue_of_none (states.numberSaid?_eq_none (.inr large))
  case tooSmall =>
    intro small
    exact ofAnnotationValue_of_none (states.numberSaid?_eq_none (.inl small))

/-- The annotation of a service reads the parts of its version one by one. -/
theorem ofValues_of_version {values : AnnotationValues} {parts : List (String × AnnotationValue)}
    (version : values.get? "version" = some (.nested parts)) :
    (ServiceMarker.ofValues values).major = .ofAnnotationValue (Dictionary.get? parts "major") ∧
      (ServiceMarker.ofValues values).minor =
        .ofAnnotationValue (Dictionary.get? parts "minor") := by
  simp only [ServiceMarker.ofValues, versionPart, version, and_self]

/-! ## Versions in documents -/

theorem malformedVersion_mem_warningsOf_iff {s : Strategy} {c : Source.Class}
    {className part value : String} :
    .malformedVersion className part value ∈ s.warningsOf c ↔
      className = c.qualifiedName ∧ s.deploysItself c = true ∧ (part = "major" ∨ part = "minor") ∧
        ∃ given ∈ s.givenVersion? c part, numberSaid? given = none ∧ value = shownValue given := by
  constructor
  · intro member
    cases Strategy.warned_of_mem_warningsOf member with
    | version deploys isPart found malformed =>
        exact ⟨rfl, deploys, isPart, _, found, malformed, rfl⟩
  · rintro ⟨rfl, deploys, isPart, given, found, malformed, rfl⟩
    have warned : .malformedVersion c.qualifiedName part (shownValue given) ∈
        s.versionWarnings c part := by
      simp [Strategy.versionWarnings, Option.mem_def.mp found, malformed]
    simp only [Strategy.warningsOf, deploys, if_true, List.mem_append]
    rcases isPart with rfl | rfl
    · exact .inl (.inr (.inl warned))
    · exact .inl (.inr (.inr warned))

/-- What a document and the warnings about a class have for a part of the version of the class.
The document has a number of at most 32 bits that is not negative, and the warnings are about the
values that state no number of 32 bits. -/
structure ReadsVersion (s : Strategy) (c : Source.Class) (warnings : List Warning) (part : String)
    (number : Option Int) : Prop where
  range : ∀ n ∈ number, 0 ≤ n ∧ n ≤ 2147483647
  absent : s.givenVersion? c part = none → number = none
  value : ∀ given ∈ s.givenVersion? c part, ∀ n, StatesInteger given n → 0 ≤ n → n ≤ 2147483647 →
    number = some n
  negative : ∀ given ∈ s.givenVersion? c part, ∀ n, StatesInteger given n → n < 0 → number = none
  outside : ∀ given ∈ s.givenVersion? c part,
    (∀ n, StatesInteger given n → n < -2147483648 ∨ 2147483647 < n) → number = none
  warned : ∀ shown, .malformedVersion c.qualifiedName part shown ∈ warnings ↔
    ∃ given ∈ s.givenVersion? c part, shown = shownValue given ∧
      ∀ n, StatesInteger given n → n < -2147483648 ∨ 2147483647 < n

theorem version?_of_none {s : Strategy} {c : Source.Class} {part : String}
    {given : AnnotationValue} (found : s.givenVersion? c part = some given)
    (said : numberSaid? given = none) : s.version? c part = none := by
  rw [Strategy.version?, found, Option.bind_some, said, Option.filter_none]

theorem version?_of_some {s : Strategy} {c : Source.Class} {part : String}
    {given : AnnotationValue} {n : Int} (found : s.givenVersion? c part = some given)
    (said : numberSaid? given = some n) :
    s.version? c part = if s.admitsVersion n then some n else none := by
  rw [Strategy.version?, found, Option.bind_some, said, Option.filter_some]

theorem readsVersion_version? {category : Option String} {c : Source.Class} {part : String}
    (deploys : Strategy.deploysItself { kind := .annotations, category } c = true)
    (isPart : part = "major" ∨ part = "minor") :
    ReadsVersion { kind := .annotations, category } c
      (Strategy.warningsOf { kind := .annotations, category } c) part
      (Strategy.version? { kind := .annotations, category } c part) := by
  constructor
  case range =>
    intro n given
    rcases Option.filter_eq_some_iff.mp given with ⟨said, admitted⟩
    rcases Option.bind_eq_some_iff.mp said with ⟨value, _, number⟩
    have fits := (numberSaid?_eq_some_iff.mp number).2
    simp only [fitsInt32, Bool.and_eq_true, decide_eq_true_eq] at fits
    simp only [Strategy.admitsVersion, decide_eq_true_eq] at admitted
    exact ⟨admitted, fits.2⟩
  case absent =>
    intro absent
    rw [Strategy.version?, absent]
    rfl
  case value =>
    intro given found n states natural below
    rw [version?_of_some found (states.numberSaid? (by omega) below)]
    exact if_pos (by simpa [Strategy.admitsVersion] using natural)
  case negative =>
    intro given found n states negative
    by_cases above : -2147483648 ≤ n
    · rw [version?_of_some found (states.numberSaid? above (by omega))]
      exact if_neg (by simpa [Strategy.admitsVersion] using negative)
    · exact version?_of_none found (states.numberSaid?_eq_none (.inl (by omega)))
  case outside =>
    intro given found outside
    exact version?_of_none found (numberSaid?_eq_none_iff.mpr outside)
  case warned =>
    intro shown
    simp only [malformedVersion_mem_warningsOf_iff, deploys, isPart, true_and,
      numberSaid?_eq_none_iff]
    constructor
    · rintro ⟨given, found, outside, rfl⟩
      exact ⟨given, found, rfl, outside⟩
    · rintro ⟨given, found, rfl, outside⟩
      exact ⟨given, found, outside, rfl⟩

/-- The versions of a service and the warnings that come with it. -/
structure HasVersions (s : Strategy) (c : Source.Class) (noted : Noted Service) : Prop where
  major : ∀ a ∈ noted.value.autoDeploy, ReadsVersion s c noted.warnings "major" a.majorVersion
  minor : ∀ a ∈ noted.value.autoDeploy, ReadsVersion s c noted.warnings "minor" a.minorVersion
  notDeployed : noted.value.autoDeploy = none → ∀ className part shown,
    .malformedVersion className part shown ∉ noted.warnings

theorem hasVersions_service {category : Option String} {component : Component} {c : Source.Class}
    {noted : Noted Service}
    (built : Strategy.service { kind := .annotations, category } component c = .ok noted) :
    HasVersions { kind := .annotations, category } c noted := by
  rcases autoDeploy_service built with ⟨deployed, versions⟩
  have warnings := Strategy.warnings_service built
  have deploys {a : AutoDeploy} (given : a ∈ noted.value.autoDeploy) :
      Strategy.deploysItself { kind := .annotations, category } c = true := by
    rw [← deployed, Option.mem_def.mp given]
    rfl
  constructor
  case major =>
    intro a given
    rw [warnings, (versions a given).1]
    exact readsVersion_version? (deploys given) (.inl rfl)
  case minor =>
    intro a given
    rw [warnings, (versions a given).2]
    exact readsVersion_version? (deploys given) (.inr rfl)
  case notDeployed =>
    intro absent className part shown
    rw [absent, Option.isSome_none] at deployed
    rw [warnings, malformedVersion_mem_warningsOf_iff, ← deployed]
    simp

/-- The annotation of a service takes a negative number of up to 32 bits for none, one from zero to
the largest one of 32 bits as it is, and every other number for a value that is no number.  So the
versions in a document are from zero to that largest number, negative ones of up to 32 bits are left
out without a warning, and the warnings are about the values that are no numbers of 32 bits. -/
theorem versions_of_generate {category : Option String} {prior : Option Component} {tree : Tree}
    {report : Report}
    (run : Strategy.generate { kind := .annotations, category } prior tree = .ok report) :
    (∀ values parts given n, values.get? "version" = some (.nested parts) →
      StatesInteger given n →
        (Dictionary.get? parts "major" = some given →
          TakesInteger given n (ServiceMarker.ofValues values).major) ∧
        (Dictionary.get? parts "minor" = some given →
          TakesInteger given n (ServiceMarker.ofValues values).minor)) ∧
      ∃ services, List.Forall₂ (HasVersions { kind := .annotations, category })
          (Strategy.serviceClasses { kind := .annotations, category } tree) services ∧
        report.component.services = services.map (·.value) ∧
        report.warnings = services.flatMap (·.warnings) := by
  constructor
  · intro values parts given n version states
    rcases ofValues_of_version version with ⟨major, minor⟩
    rw [major, minor]
    constructor
    · intro found
      rw [found]
      exact takesInteger_ofAnnotationValue states
    · intro found
      rw [found]
      exact takesInteger_ofAnnotationValue states
  · rcases Strategy.parts_of_generate run with ⟨services, each, component, warnings⟩
    refine ⟨services, each.imp fun c noted built => hasVersions_service built, ?_, warnings⟩
    rw [component]

/-- A negative number of 64 bits is not always taken for none. -/
theorem not_forall_negative_unset :
    ¬ ∀ values parts given n, values.get? "version" = some (.nested parts) →
      Dictionary.get? parts "major" = some given → StatesInteger given n →
        fitsInt64 n = true → n < 0 → (ServiceMarker.ofValues values).major = .unset := by
  intro always
  have taken := always [("version", .nested [("major", .int (-2147483649))])] _ _ _ rfl rfl .number
    (by decide) (by decide)
  exact absurd taken (by decide)

/-! ## Classes with versions of all kinds -/

/-- A class with a major version in a text and a negative minor version. -/
def archiveClass : Source.Class where
  qualifiedName := "shop.Archive"
  annotations :=
    [("Service", [("version", .nested [("major", .text " +07\n"), ("minor", .int (-1))])])]

/-- A class whose versions are next to the least and the largest number of 32 bits. -/
def batchClass : Source.Class where
  qualifiedName := "shop.Batch"
  annotations :=
    [("Service",
      [("version", .nested [("major", .int (-2147483649)), ("minor", .text "2147483648")])])]

/-- The tree of these classes. -/
def versionedTree : Tree where
  classes := [archiveClass, batchClass]
  ordered := by decide

/-- The service of the first class. -/
def archiveService : Noted Service where
  value :=
    { name := "Archive"
      implementationClass := "shop.Archive"
      autoDeploy := some { serviceId := "Archive", majorVersion := some 7 } }

/-- The service of the second class, with the warnings about it. -/
def batchService : Noted Service where
  value :=
    { name := "Batch"
      implementationClass := "shop.Batch"
      autoDeploy := some { serviceId := "Batch" } }
  warnings :=
    [.malformedVersion "shop.Batch" "major" "-2147483649",
      .malformedVersion "shop.Batch" "minor" "2147483648"]

/-- The report on the tree. -/
def versionedReport : Report where
  component := { services := [archiveService.value, batchService.value] }
  warnings := archiveService.warnings ++ batchService.warnings

theorem generate_versionedTree :
    ({ kind := .annotations } : Strategy).generate none versionedTree = .ok versionedReport := by
  decide +kernel

theorem versions_of_generate_versionedTree :
    ({ kind := .annotations } : Strategy).generate none versionedTree = .ok versionedReport ∧
      StatesInteger (.text " +07\n") 7 ∧
      TakesInteger (.text " +07\n") 7 (Annotated.serviceMarker archiveClass).major ∧
      ∃ services, List.Forall₂ (HasVersions { kind := .annotations }) [archiveClass, batchClass]
          services ∧
        versionedReport.component.services = services.map (·.value) ∧
        versionedReport.warnings = services.flatMap (·.warnings) := by
  have states : StatesInteger (.text " +07\n") 7 := statesInteger_text_iff.mpr (by decide +kernel)
  rcases versions_of_generate generate_versionedTree with ⟨taken, made⟩
  exact ⟨generate_versionedTree, states, (taken _ _ _ 7 rfl states).1 rfl, made⟩

end ComponentGen.Extraction
