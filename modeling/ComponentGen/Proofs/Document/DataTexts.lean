import ComponentGen.Document.Format
import ComponentGen.Document.Prior
import ComponentGen.Proofs.Document.Fields
import ComponentGen.Proofs.Json.Values
import ComponentGen.Proofs.Yaml.Documents

/-!
# Documents read back from data texts

A component that is written as JSON or YAML is read back whole: every text, every version number
and every list, set or not, at every level.  YAML writes texts without saying that they are texts,
so there they have to be spelled such that nothing else is read, even where anything may stand.
-/

namespace ComponentGen.Document

open Files Number

namespace Component

/-- The text of a data document is loaded as the component that it is read as. -/
theorem load_of_read? {store : Store} {path text : String} {format : DataFormat} {c : Component}
    (named : DataFormat.ofPath? path = some format) (stored : store.read path = .ok text)
    (read : (format.read? text).bind Component.read? = some c) :
    load store path = .ok c.scalarsOnly := by
  simp only [load, stored, parse, named, read]
  rfl

theorem read?_render_json {c : Component} (fits : c.HasInt32Versions) :
    (Json.read? (c.render .json)).bind Component.read? = some c := by
  have given := isGiven_toJson fits
  rw [render, Json.read?_print given, Option.bind_some]
  exact c.read?_of_shows fits (Json.shows_ofJson given)

theorem exists_read?_render_yaml {c : Component} (fits : c.HasInt32Versions) :
    ∃ n, Yaml.read? (c.render .yaml) = some n ∧ Shows c.toJson n :=
  Yaml.exists_read?_print (isGiven_toJson fits)

theorem read?_render_yaml {c : Component} (fits : c.HasInt32Versions) :
    (Yaml.read? (c.render .yaml)).bind Component.read? = some c := by
  obtain ⟨n, read, shown⟩ := exists_read?_render_yaml fits
  rw [read, Option.bind_some]
  exact c.read?_of_shows fits shown

/-- JSON documents lose nothing: the text of a component is read as that component, and what is
loaded from a file with the text is the component without its services. -/
theorem renderJson_lossless (c : Component) (fits : c.HasInt32Versions) :
    (Json.read? (c.render .json)).bind Component.read? = some c ∧
      ∀ (store : Store) (path : String), extension? path = some "json" →
        store.read path = .ok (c.render .json) → load store path = .ok c.scalarsOnly := by
  have whole := read?_render_json fits
  refine ⟨whole, fun store path named stored => ?_⟩
  have isJson : DataFormat.ofPath? path = some .json := by
    rw [DataFormat.ofPath?, named]
    rfl
  exact load_of_read? isJson stored whole

/-- A component that uses fields of every kind, set and not set. -/
def nestedShop : Component where
  id := some "shop"
  version := some "1.10"
  classPath := some ""
  services :=
    [{ name := "Orders \"all\""
       implementationClass := "shop\\Orders"
       hint := some "two\nlines"
       autoDeploy := some
         { serviceId := "orders", categoryId := "", majorVersion := some (-1), minorVersion := none }
       operations :=
         [{ name := "place"
            inputs := [{ name := "order", type := "Order", description := some "\u0001" }]
            faults := [{ name := "full", type := "Full" }] }]
       configParams := [{ name := "limit", type := "int", required := some false }] },
     {}]

theorem renderJson_lossless_nestedShop :
    nestedShop.HasInt32Versions ∧
      (Json.read? (nestedShop.render .json)).bind Component.read? = some nestedShop ∧
      load { files := [(["doc.json"], nestedShop.render .json)] } "doc.json" =
        .ok { id := some "shop", version := some "1.10", classPath := some "" } := by
  have fits : nestedShop.HasInt32Versions := by decide
  obtain ⟨whole, loads⟩ := renderJson_lossless nestedShop fits
  exact ⟨fits, whole, loads _ "doc.json" rfl rfl⟩

/-- YAML documents keep their texts.  The text of a component is read as that component; read where
anything may stand it is the value that was written, so that no text in it is taken for a number, a
truth value, null, a key or a comment; and what is loaded from a file with the text is the component
without its services. -/
theorem renderYaml_keepsTexts (c : Component) (fits : c.HasInt32Versions) :
    (∃ n, Yaml.read? (c.render .yaml) = some n ∧ Component.read? n = some c ∧
        n.valueInside? 0 = some c.toJson) ∧
      ∀ (store : Store) (path : String),
        extension? path = some "yaml" ∨ extension? path = some "yml" →
          store.read path = .ok (c.render .yaml) → load store path = .ok c.scalarsOnly := by
  obtain ⟨n, read, shown⟩ := exists_read?_render_yaml fits
  have whole := c.read?_of_shows fits shown
  have resolves := c.valueInside?_of_shows shown
  refine ⟨⟨n, read, whole, resolves⟩, fun store path named stored => ?_⟩
  have isYaml : DataFormat.ofPath? path = some .yaml := by
    rw [DataFormat.ofPath?]
    rcases named with named | named
    · rw [named]
      rfl
    · rw [named]
      rfl
  exact load_of_read? isYaml stored (read?_render_yaml fits)

/-- A component whose texts all look like something else. -/
def mistakableShop : Component where
  id := some "~"
  version := some "1.10"
  bootstrapClass := some "null"
  lifecycleClass := some ""
  classPath := some "true"
  services :=
    [{ name := "1e3"
       implementationClass := "0x1F"
       hint := some "# none"
       description := some "- a: 'b'\n\n  # c\n\n"
       autoDeploy := some
         { serviceId := "-1", categoryId := "[]", majorVersion := some 1, minorVersion := none }
       operations :=
         [{ name := "---"
            title := "a: b"
            description := some " \n"
            inputs := [{ name := "007", type := "&x", title := "*x", hint := some "\r\n" }] }] }]

theorem renderYaml_keepsTexts_mistakableShop :
    mistakableShop.HasInt32Versions ∧
      (∃ n, Yaml.read? (mistakableShop.render .yaml) = some n ∧
        Component.read? n = some mistakableShop ∧
          n.valueInside? 0 = some mistakableShop.toJson) ∧
      load { files := [(["doc.yml"], mistakableShop.render .yaml)] } "doc.yml" =
        .ok { id := some "~", version := some "1.10", bootstrapClass := some "null",
              lifecycleClass := some "", classPath := some "true" } := by
  have fits : mistakableShop.HasInt32Versions := by decide
  obtain ⟨whole, loads⟩ := renderYaml_keepsTexts mistakableShop fits
  exact ⟨fits, whole, loads _ "doc.yml" (.inr rfl) rfl⟩

example :
    mistakableShop.scalarsOnly.render .yaml =
      "id: '~'\nversion: '1.10'\nbootstrapClass: 'null'\n" ++
        "lifecycleClass: ''\nclassPath: 'true'\n" := by
  decide +kernel

end Component

end ComponentGen.Document
