import ComponentGen.Proofs.Document.DataTexts
import ComponentGen.Proofs.Document.Reload
import ComponentGen.Proofs.Program.Effects

/-!
# Written documents as earlier ones

What one run writes is what the next one loads as its earlier document.  A document is written in
the format that is asked for and loaded in the format that the name of its file tells, so it comes
back when the two agree.
-/

namespace ComponentGen.Program

open Document Files Xml

/-- The format that a file is loaded in: its name tells JSON and YAML, and every other file is
taken to be XML. -/
def loadedFormat (path : String) : Format :=
  match DataFormat.ofPath? path with
  | some .json => .json
  | some .yaml => .yaml
  | none => .xml

theorem read_of_writeDocument {store after : Store} {path text : String}
    (written : writeDocument store path text = .ok after) : after.read path = .ok text := by
  unfold writeDocument at written
  cases leaves_putDocument path text { store } with
  | done result only =>
      rw [result] at written
      cases written
      exact only.written
  | notDone result =>
      rw [result] at written
      cases written

/-- The texts about a component that are clean come back in every format. -/
theorem load_of_read {store : Store} {path : String} {c : Component} (clean : c.HasCleanScalars)
    (fits : c.HasInt32Versions)
    (stored : store.read path = .ok (c.render (loadedFormat path))) :
    Component.load store path = .ok c.scalarsOnly := by
  unfold loadedFormat at stored
  cases named : DataFormat.ofPath? path with
  | none =>
      rw [named] at stored
      rw [← clean.reloaded_eq .asWritten]
      exact Component.load_render named stored
  | some format =>
      rw [named] at stored
      cases format with
      | json => exact Component.load_of_read? named stored (Component.read?_render_json fits)
      | yaml => exact Component.load_of_read? named stored (Component.read?_render_yaml fits)

/-- A file that can be loaded is there, so it is not passed over. -/
theorem priorComponent_of_load {store : Store} {path text : String} {c : Component}
    (stored : store.read path = .ok text) (loaded : Component.load store path = .ok c) :
    priorComponent store (some path) = .ok c := by
  have there : store.holds path = true := by
    unfold Store.read at stored
    unfold Store.holds
    cases place : store.locate path with
    | error reason =>
        rw [place] at stored
        cases stored
    | ok location =>
        rw [place] at stored
        cases content : store.content? location with
        | none =>
            simp only [content] at stored
            cases stored
        | some text => simp [content]
  simp only [priorComponent, there, if_true, loaded]

/-- A component whose texts are clean is the earlier document of the next run: what is written to a
file is loaded from there, if the file is loaded in the format that it is written in. -/
theorem prior_of_writeDocument {store after : Store} {path : String} {format : Format}
    {c : Component} (agrees : loadedFormat path = format) (clean : c.HasCleanScalars)
    (fits : c.HasInt32Versions)
    (written : writeDocument store path (c.render format) = .ok after) :
    Component.load after path = .ok c.scalarsOnly ∧
      priorComponent after (some path) = .ok c.scalarsOnly := by
  have stored := read_of_writeDocument written
  subst agrees
  have loaded := load_of_read clean fits stored
  exact ⟨loaded, priorComponent_of_load stored loaded⟩

/-- A component whose texts about the whole are clean, with services of all kinds. -/
def releasedShop : Component :=
  { Component.nestedShop with classPath := none, lifecycleClass := some "a: 'b' # c" }

theorem prior_of_writeDocument_releasedShop :
    loadedFormat "out/component.yaml" = .yaml ∧ releasedShop.HasCleanScalars ∧
      releasedShop.HasInt32Versions ∧
      ∃ after, writeDocument {} "out/component.yaml" (releasedShop.render .yaml) = .ok after ∧
        Component.load after "out/component.yaml" = .ok releasedShop.scalarsOnly ∧
        priorComponent after (some "out/component.yaml") =
          .ok { id := some "shop", version := some "1.10", lifecycleClass := some "a: 'b' # c" } := by
  have clean : releasedShop.HasCleanScalars := by decide
  have fits : releasedShop.HasInt32Versions := by decide
  refine ⟨rfl, clean, fits, ⟨_, rfl, ?_⟩⟩
  exact @prior_of_writeDocument {} _ "out/component.yaml" .yaml releasedShop rfl clean fits rfl

/-! ## Files that are loaded in another format -/

theorem load_of_xmlRead? {store : Store} {path text : String} (named : loadedFormat path = .xml)
    (stored : store.read path = .ok text) (nothing : Xml.read? text = none) :
    Component.load store path = .error (.malformed path) := by
  unfold loadedFormat at named
  split at named
  · cases named
  · cases named
  case h_3 isXml =>
    have malformed : Component.parseXml path text = .error (.malformed path) := by
      unfold Component.parseXml
      rw [nothing]
    simp only [Component.load, stored, Component.parse, isXml, malformed]
    rfl

theorem load_of_jsonRead? {store : Store} {path text : String} (named : loadedFormat path = .json)
    (stored : store.read path = .ok text) (nothing : Json.read? text = none) :
    Component.load store path = .error (.malformed path) := by
  unfold loadedFormat at named
  split at named
  case h_1 isJson =>
    simp only [Component.load, stored, Component.parse, isJson, DataFormat.read?, nothing]
    rfl
  · cases named
  · cases named

/-- The text of a data document starts with a brace or with a key. -/
theorem exists_render_data {format : Format} {c : Component} (data : format ≠ .xml)
    (fits : c.HasInt32Versions) :
    ∃ first rest, (c.render format).toList = first :: rest ∧
      (first = '\x7b' ∨ first.isAlpha = true) := by
  have given := Component.isGiven_toJson fits
  unfold Component.toJson at given
  cases format with
  | xml => exact absurd rfl data
  | json =>
      simp only [Component.render, Component.toJson, Json.print, String.toList_ofList]
      generalize Json.optionalField "id" c.id _ ++ _ ++ _ ++ _ ++ _ ++ _ = fields
      cases fields with
      | nil => exact ⟨'\x7b', _, rfl, .inl rfl⟩
      | cons f rest => exact ⟨'\x7b', _, rfl, .inl rfl⟩
  | yaml =>
      simp only [Component.render, Component.toJson]
      generalize Json.optionalField "id" c.id _ ++ _ ++ _ ++ _ ++ _ ++ _ = fields at given ⊢
      cases fields with
      | nil => exact ⟨'\x7b', _, String.toList_ofList, .inl rfl⟩
      | cons f rest =>
          cases given with
          | object keys =>
              obtain ⟨name, v⟩ := f
              have word : IsWord name := keys _ (List.mem_cons_self ..)
              obtain ⟨first, others, text, letter⟩ := Yaml.exists_cons_of_isWord word
              refine ⟨first, others ++ ':' :: (Yaml.printedValue 0 v ++ Yaml.printedEntries 0 rest),
                ?_, .inr letter⟩
              rw [Yaml.toList_print_object word, text, List.cons_append]

/-- A document that is written as data and loaded as XML is malformed, whatever it says. -/
theorem load_data_malformed {store : Store} {path : String} {format : Format} {c : Component}
    (data : format ≠ .xml) (named : loadedFormat path = .xml) (fits : c.HasInt32Versions)
    (stored : store.read path = .ok (c.render format)) :
    Component.load store path = .error (.malformed path) := by
  obtain ⟨first, rest, starts, mark⟩ := exists_render_data data fits
  apply load_of_xmlRead? named stored
  have other {d : Char} (noBrace : d ≠ '\x7b') (noLetter : d.isAlpha = false) : first ≠ d := by
    rcases mark with rfl | letter
    · exact noBrace.symm
    · exact Yaml.ne_of_isAlpha letter noLetter
  have noSpace : isSpace first = false := by
    simp [isSpace, other (show ' ' ≠ '\x7b' by decide), other (show '\t' ≠ '\x7b' by decide),
      other (show '\n' ≠ '\x7b' by decide), other (show '\r' ≠ '\x7b' by decide)]
  exact Xml.read?_eq_none starts noSpace (other (by decide) (by decide))
    (other (by decide) (by decide))

/-- XML that is loaded as JSON is malformed as well. -/
theorem load_markup_malformed {store : Store} {path : String} {c : Component}
    (named : loadedFormat path = .json) (stored : store.read path = .ok (c.render .xml)) :
    Component.load store path = .error (.malformed path) := by
  apply load_of_jsonRead? named stored
  rw [Component.render, Json.read?, toList_print]
  rfl

/-- A component with a character that JSON writes as it is and that no YAML text may hold. -/
def deletedShop : Component where
  id := some "shop\u007F"
  version := some "1"

/-- Files for each format that are loaded in another one. -/
def otherFiles : List (Format × String) :=
  [(.json, "component.xml"), (.yaml, "component.xml"), (.xml, "component.json"),
    (.yaml, "component.json"), (.xml, "component.yaml"), (.json, "component.yaml")]

/-- No format comes back from a file that is loaded in another format. -/
theorem load_otherFiles_malformed :
    deletedShop.HasCleanScalars ∧ deletedShop.HasInt32Versions ∧
      ∀ file ∈ otherFiles, ∃ after,
        writeDocument {} file.2 (deletedShop.render file.1) = .ok after ∧
          Component.load after file.2 = .error (.malformed file.2) := by
  have clean : deletedShop.HasCleanScalars := by decide
  have fits : deletedShop.HasInt32Versions := by decide
  refine ⟨clean, fits, ?_⟩
  intro file other
  simp only [otherFiles, List.mem_cons, List.not_mem_nil, or_false] at other
  rcases other with rfl | rfl | rfl | rfl | rfl | rfl
  · exact ⟨{ files := [(["component.xml"], _)] }, rfl, load_data_malformed (by decide) rfl fits rfl⟩
  · exact ⟨{ files := [(["component.xml"], _)] }, rfl, load_data_malformed (by decide) rfl fits rfl⟩
  · exact ⟨{ files := [(["component.json"], _)] }, rfl, load_markup_malformed rfl rfl⟩
  · exact ⟨{ files := [(["component.json"], _)] }, rfl, by decide⟩
  · exact ⟨{ files := [(["component.yaml"], _)] }, rfl, by decide +kernel⟩
  · exact ⟨{ files := [(["component.yaml"], _)] }, rfl, by decide⟩

end ComponentGen.Program
