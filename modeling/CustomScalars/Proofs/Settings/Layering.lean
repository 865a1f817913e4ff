import CustomScalars.Proofs.Startup

/-!
# The law of layered settings

A lookup goes through its layers as if they were a list of values: the first of them in which the
key leads to something other than null decides, and it does so also with a value that counts as
false. A layer in which the key leads to nothing, to null, or through something that is no record is
passed over. What a layer says of other keys makes no difference.
-/
namespace CustomScalars.Settings

/-- The path leads from the first value, through records, to the second. -/
inductive Leads : Value → List String → Value → Prop where
  | here (value : Value) : Leads value [] value
  | into {brand : Option String} {entries : List (Value × Value)} {name : String}
      {inner found : Value} {path : List String} :
      (Value.named entries).lookup name = some inner → Leads inner path found →
      Leads (.record brand entries) (name :: path) found

/-- The path leads to null, or it does not lead on: something on its way is no record, or is one
without the next name. -/
inductive Blocked : Value → List String → Prop where
  | null : Blocked .null []
  | unrecorded {value : Value} {name : String} {path : List String} :
      (∀ brand entries, value ≠ .record brand entries) → Blocked value (name :: path)
  | absent {brand : Option String} {entries : List (Value × Value)} {name : String}
      {path : List String} : (Value.named entries).lookup name = none →
      Blocked (.record brand entries) (name :: path)
  | into {brand : Option String} {entries : List (Value × Value)} {name : String} {inner : Value}
      {path : List String} : (Value.named entries).lookup name = some inner →
      Blocked inner path → Blocked (.record brand entries) (name :: path)

theorem walk_of_leads {source found : Value} {path : List String} (leads : Leads source path found)
    (present : found.isNull = false) : walk source path = some found := by
  induction leads with
  | here value => simp [walk, present]
  | into here _ ih => simp only [walk, here, ih present]

theorem walk_of_blocked {source : Value} {path : List String} (blocked : Blocked source path) :
    walk source path = none := by
  induction blocked with
  | null => rfl
  | @unrecorded value name path unrecorded =>
    cases value with
    | record brand entries => exact absurd rfl (unrecorded brand entries)
    | _ => rfl
  | absent here => simp only [walk, here]
  | into here _ ih => simp only [walk, here, ih]

theorem leads_of_walk {source found : Value} {path : List String}
    (walked : walk source path = some found) : Leads source path found := by
  fun_induction walk source path with
  | case1 => cases walked
  | case2 value present =>
    cases walked
    exact .here _
  | case3 brand entries name rest inner here ih => exact .into here (ih walked)
  | case4 => cases walked
  | case5 => cases walked

theorem blocked_of_walk {source : Value} {path : List String} (walked : walk source path = none) :
    Blocked source path := by
  fun_induction walk source path with
  | case1 value null =>
    cases value with
    | null => exact .null
    | _ => cases null
  | case2 => cases walked
  | case3 brand entries name rest inner here ih => exact .into here (ih walked)
  | case4 brand entries name rest absent => exact .absent absent
  | case5 value name rest unrecorded => exact .unrecorded unrecorded

/-- Of some sources, the first in which the path is not blocked, and what it leads to there. -/
inductive FirstOf (path : List String) : List Value → Option Value → Prop where
  | nothing : FirstOf path [] none
  | here {source value : Value} {rest : List Value} : Leads source path value →
      value.isNull = false → FirstOf path (source :: rest) (some value)
  | later {source : Value} {rest : List Value} {found : Option Value} : Blocked source path →
      FirstOf path rest found → FirstOf path (source :: rest) found

theorem firstOf_findSome?_walk (path : List String) (sources : List Value) :
    FirstOf path sources (sources.findSome? fun source => walk source path) := by
  induction sources with
  | nil => exact .nothing
  | cons source rest ih =>
    cases walked : walk source path with
    | some value =>
      rw [List.findSome?_cons, walked]
      exact .here (leads_of_walk walked) (walk_ne_null walked)
    | none =>
      rw [List.findSome?_cons, walked]
      exact .later (blocked_of_walk walked) ih

theorem findSome?_walk_of_firstOf {path : List String} {sources : List Value}
    {found : Option Value} (first : FirstOf path sources found) :
    (sources.findSome? fun source => walk source path) = found := by
  induction first with
  | nothing => rfl
  | here leads present => rw [List.findSome?_cons, walk_of_leads leads present]
  | later blocked _ ih =>
    rw [List.findSome?_cons, walk_of_blocked blocked]
    exact ih

theorem firstOf_append {path : List String} {higher sources : List Value} {found : Option Value}
    (blocked : ∀ source ∈ higher, Blocked source path) (first : FirstOf path sources found) :
    FirstOf path (higher ++ sources) found := by
  induction higher with
  | nil => exact first
  | cons source rest ih =>
    apply FirstOf.later
    · exact blocked source List.mem_cons_self
    · exact ih fun other member => blocked other (List.mem_cons_of_mem source member)

/-- The path leads to the same in both values, null and nothing being the same. -/
def SameAlong (path : List String) (source other : Value) : Prop :=
  ∀ found, found.isNull = false → (Leads source path found ↔ Leads other path found)

theorem SameAlong.walk {path : List String} {source other : Value}
    (same : SameAlong path source other) : walk source path = walk other path := by
  apply Option.ext
  intro found
  constructor
  · intro walked
    have present := walk_ne_null walked
    exact walk_of_leads ((same found present).mp (leads_of_walk walked)) present
  · intro walked
    have present := walk_ne_null walked
    exact walk_of_leads ((same found present).mpr (leads_of_walk walked)) present

theorem findSome?_walk_congr {path : List String} {sources others : List Value}
    (same : List.Forall₂ (SameAlong path) sources others) :
    (sources.findSome? fun source => walk source path) =
      others.findSome? fun source => walk source path := by
  induction same with
  | nil => rfl
  | cons along _ ih => rw [List.findSome?_cons, List.findSome?_cons, along.walk, ih]

/-- The names that a key is made of, with dots between them and none in them. -/
structure Segments (names : List String) (key : String) : Prop where
  nonempty : names ≠ []
  dotless : ∀ name ∈ names, '.' ∉ name.toList
  joined : Value.joined "." names = key

theorem path_ne_nil (key : String) : path key ≠ [] := by
  simp [path, Text.splitEvery_ne_nil]

theorem joined_splitEvery (text : List Char) :
    (Value.joined "." ((Text.splitEvery '.' text).map String.ofList)).toList = text := by
  induction text with
  | nil => rfl
  | cons char rest ih =>
    cases parts : Text.splitEvery '.' rest with
    | nil => exact absurd parts (Text.splitEvery_ne_nil '.' rest)
    | cons part others =>
      rw [parts] at ih
      by_cases dot : char = '.'
      · -- The dot stands between a first segment without characters and those of the rest.
        simp only [Text.splitEvery, parts, dot, if_true, List.map_cons, Value.joined] at ih ⊢
        simp [ih]
      · simp only [Text.splitEvery, parts, dot, if_false, List.map_cons]
        cases others with
        | nil =>
          simp only [List.map_cons, List.map_nil, Value.joined, String.toList_ofList] at ih ⊢
          rw [ih]
        | cons next more =>
          simp only [List.map_cons, Value.joined, String.toList_append, String.toList_ofList,
            List.cons_append] at ih ⊢
          rw [ih]

theorem segments_path (key : String) : Segments (path key) key where
  nonempty := path_ne_nil key
  dotless := by
    intro name member
    obtain ⟨part, split, rfl⟩ := List.mem_map.mp member
    rw [String.toList_ofList]
    exact Text.not_mem_of_mem_splitEvery split
  joined := String.toList_injective (joined_splitEvery key.toList)

namespace Layers

/-- What was configured at run time for a schema. -/
def configured (layers : Layers) (schema : Value) : Value :=
  .ofEntries ((layers.runtime.lookup schema).getD [])

/-- The host's records for single schemas, as far as it has any. -/
def schemaRecords (layers : Layers) : ValueTable Value :=
  match layers.host.bind Host.bySchema with
  | some (.record _ entries) => entries
  | _ => []

/-- What the host says for a schema. -/
def special (layers : Layers) (schema : Value) : Value :=
  (layers.schemaRecords.lookup schema).getD (.ofEntries [])

/-- What the host says for all schemas. -/
def shared (layers : Layers) : Value := (layers.host.bind Host.shared).getD (.ofEntries [])

/-- The layers that lie over the library's defaults, the most special first. -/
def overrides (layers : Layers) : Option Value → List Value
  | none => [layers.shared]
  | some schema => [layers.configured schema, layers.special schema, layers.shared]

/-- What a lookup goes through. A layer that is not there is empty. -/
def sources (layers : Layers) (schema : Option Value) : List Value :=
  layers.overrides schema ++ [defaults]

/-- What the layers hold under a key. -/
def held (layers : Layers) (schema : Option Value) (key : String) : Option Value :=
  (layers.sources schema).findSome? fun source => walk source (path key)

/-- What the host says for schemas is a record or counts as nothing. -/
def ListsSchemas (layers : Layers) : Prop :=
  ∀ host, layers.host = some host → Startup.ListsSchemas host

section
variable {layers : Layers} {schema : Value} {key : String}

/-- A key has a segment, and so leads to nothing in an empty record. -/
theorem walk_empty (key : String) : walk (.ofEntries []) (path key) = none := by
  cases names : path key with
  | nil => exact absurd names (path_ne_nil key)
  | cons name rest => rfl

theorem inRuntime_eq (isKey : schema.isKey = true) (key : String) :
    layers.inRuntime schema (path key) = .ok (walk (layers.configured schema) (path key)) := by
  rw [inRuntime, ValueTable.find_of_isKey isKey, configured]
  cases layers.runtime.lookup schema with
  | none => exact congrArg Except.ok (walk_empty key).symm
  | some sections => rfl

theorem schemaEntries_eq {host : Host} (here : layers.host = some host)
    (lists : layers.ListsSchemas) : host.schemaEntries = .ok layers.schemaRecords := by
  simp only [schemaRecords, here, Option.bind_some, Host.schemaEntries]
  cases given : host.bySchema with
  | none => rfl
  | some value =>
    by_cases truthy : value.truthy = true
    · obtain ⟨brand, entries, rfl⟩ := lists host here value given truthy
      simp only [truthy, if_true, Value.record?]
    · -- A record that counts as false has no entries, and nothing else has any.
      cases value with
      | record brand entries =>
        have empty : entries = [] := by simpa [Value.truthy] using truthy
        simp [empty, Value.truthy]
      | _ => simp [truthy]

theorem inSchema_eq (isKey : schema.isKey = true) (lists : layers.ListsSchemas) (key : String) :
    layers.inSchema schema (path key) = .ok (walk (layers.special schema) (path key)) := by
  cases here : layers.host with
  | none =>
    have none : layers.special schema = .ofEntries [] := by
      simp [special, schemaRecords, here, ValueTable.lookup]
    simp only [inSchema, here, none, walk_empty]
  | some host =>
    simp only [inSchema, here, schemaEntries_eq here lists, bind, Except.bind,
      ValueTable.find_of_isKey isKey, special]
    cases layers.schemaRecords.lookup schema with
    | none => exact congrArg Except.ok (walk_empty key).symm
    | some settings => rfl

theorem inGeneral_eq (layers : Layers) (key : String) :
    layers.inGeneral (path key) = layers.held none key := by
  have same : layers.inShared (path key) = walk layers.shared (path key) := by
    rw [inShared, shared]
    cases layers.host with
    | none => exact (walk_empty key).symm
    | some host =>
      cases given : host.shared with
      | none => simp [given, walk_empty]
      | some settings => simp [given]
  rw [inGeneral, same, held, sources, overrides]
  cases walked : walk layers.shared (path key) <;> simp [walked]

/-- Where no layer refuses to be asked, consulting one after another comes to what they hold. -/
theorem resolve_eq_held {schema : Option Value}
    (named : ∀ name, schema = some name → name.CanName) (lists : layers.ListsSchemas)
    (key : String) : layers.resolve schema (path key) = .ok (layers.held schema key) := by
  cases schema with
  | none => rw [resolve, inGeneral_eq]
  | some name =>
    obtain ⟨isKey, writable⟩ := named name rfl
    have written : name.checkWritable = .ok () := if_pos writable
    have split : layers.held (some name) key = (walk (layers.configured name) (path key)).or
        ((walk (layers.special name) (path key)).or (layers.held none key)) := by
      simp only [held, sources, overrides, List.cons_append, List.findSome?_cons]
      cases walk (layers.configured name) (path key) <;>
        cases walk (layers.special name) (path key) <;> rfl
    rw [resolve, written, split]
    simp only [bind, Except.bind, inRuntime_eq isKey]
    cases walk (layers.configured name) (path key) with
    | some value => rfl
    | none =>
      simp only [inSchema_eq isKey lists, inGeneral_eq]
      cases walk (layers.special name) (path key) <;> rfl

end

end Layers

/-- A lookup that nothing is remembered of is answered by the first layer in which the segments of
its key lead to something other than null, and by the fallback if there is none. So a value counts
that counts as false, a layer is passed over in which the segments do not lead on, and what decides
in each layer is what these segments lead to and nothing else. -/
theorem read_layered {reader : Reader} {layers : Layers} {key : String} {asked : Value}
    (forgotten :
      reader.memory.lookup (Reader.memoryName (effectiveSchema asked reader.schema) key) = none)
    (named : ∀ name, effectiveSchema asked reader.schema = some name → name.CanName)
    (lists : layers.ListsSchemas) (fallback : Value) :
    let sources := layers.sources (effectiveSchema asked reader.schema)
    let answer := (reader.read layers key fallback asked).1
    Segments (path key) key ∧
      (∃ found, FirstOf (path key) sources found ∧ answer = .ok (found.getD fallback)) ∧
      (∀ higher source lower value, sources = higher ++ source :: lower →
        (∀ other ∈ higher, Blocked other (path key)) → Leads source (path key) value →
        value.isNull = false → answer = .ok value) ∧
      ∀ changed : Layers, changed.ListsSchemas →
        List.Forall₂ (SameAlong (path key)) sources
          (changed.sources (effectiveSchema asked reader.schema)) →
        (reader.read changed key fallback asked).1 = answer := by
  intro sources answer
  have answered (layers : Layers) (lists : layers.ListsSchemas) :
      (reader.read layers key fallback asked).1 =
        .ok ((layers.held (effectiveSchema asked reader.schema) key).getD fallback) := by
    rw [Reader.read_of_forgotten (Reader.recalled_eq_none forgotten), Layers.uncached,
      Layers.resolve_eq_held named lists]
    rfl
  refine ⟨segments_path key, ⟨_, firstOf_findSome?_walk (path key) sources, answered layers lists⟩,
    ?_, ?_⟩
  · intro higher source lower value split blocked leads present
    have first : FirstOf (path key) sources (some value) := by
      rw [split]
      exact firstOf_append blocked (.here leads present)
    have held : layers.held (effectiveSchema asked reader.schema) key = some value :=
      findSome?_walk_of_firstOf first
    exact (answered layers lists).trans (by rw [held]; rfl)
  · intro changed listsToo same
    rw [answered changed listsToo, Layers.held, ← findSome?_walk_congr same]
    exact (answered layers lists).symm

/-- For a schema, a number stands where the run-time settings would lead on, and the host says
`False`. The value that counts as false wins over the one for all schemas. -/
theorem read_layered_of_false :
    let image (enabled : Value) : Value :=
      .ofEntries [("custom_scalars", .ofEntries [("Image", .ofEntries [("enabled", enabled)])])]
    let layers : Layers :=
      ⟨[(.ofText "public", [("custom_scalars", .int none 5)])],
        some ⟨some (image (.bool true)), some (.ofEntries [("public", image (.bool false))]), none⟩⟩
    let asked := Value.ofText "public"
    let key := "custom_scalars.Image.enabled"
    (Reader.fresh .null).memory.lookup (Reader.memoryName (effectiveSchema asked .null) key) =
        none ∧
      (∀ name, effectiveSchema asked .null = some name → name.CanName) ∧
      layers.ListsSchemas ∧
      ((Reader.fresh .null).read layers key (.int none 7) asked).1 = .ok (.bool false) := by
  intro image layers asked key
  have named : ∀ name, effectiveSchema asked .null = some name → name.CanName := by
    rintro name ⟨⟩
    exact ⟨rfl, rfl⟩
  have lists : layers.ListsSchemas := by
    rintro host ⟨⟩ value ⟨⟩ _
    exact ⟨none, _, rfl⟩
  have segments : path key = ["custom_scalars", "Image", "enabled"] := by decide
  have blocked : Blocked (layers.configured asked) (path key) := by
    rw [segments]
    have number : Blocked (.int none 5) ["Image", "enabled"] :=
      .unrecorded fun brand entries => by simp
    exact .into rfl number
  have leads : Leads (layers.special asked) (path key) (.bool false) := by
    rw [segments]
    exact .into rfl (.into rfl (.into rfl (.here _)))
  have law := @read_layered (Reader.fresh .null) layers key asked rfl named lists (.int none 7)
  refine ⟨rfl, named, lists, law.2.2.1 [layers.configured asked] _ _ _ rfl ?_ leads rfl⟩
  intro other member
  rw [List.mem_singleton.mp member]
  exact blocked

end CustomScalars.Settings
