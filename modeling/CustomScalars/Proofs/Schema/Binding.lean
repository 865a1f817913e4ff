import CustomScalars.Proofs.Effect
import CustomScalars.Proofs.Table
import CustomScalars.Schema
import Mathlib.Data.List.Perm.Basic

/-!
# Binding a list of definitions

Definitions are bound one after another, and each changes the one type of its name. So a list that
fits the schema changes every type by the definitions of its own name, in their order, and a list
that does not fit changes what those before the first misfit change. Of the definitions of one name
the last one has its functions installed, and the first one that says anything describes the type,
unless the type was described before.
-/
namespace CustomScalars

namespace ScalarType

/-- A type after definitions were bound to it. -/
def bindEach (type : ScalarType) (definitions : List Issued) : ScalarType :=
  definitions.foldl bind type

/-- The three functions of the type are those of a definition. -/
structure BoundTo (type : ScalarType) (issued : Issued) : Prop where
  serialize : type.serialize = some issued
  parseValue : type.parseValue = some issued
  parseLiteral : type.parseLiteral = some issued

theorem BoundTo.call {type : ScalarType} {issued : Issued} (bound : type.BoundTo issued)
    (operation : Definition.Operation) :
    type.call operation = issued.definition.callEngine operation := by
  cases operation with
  | serialize value => simp only [ScalarType.call, callSerialize, bound.serialize]; rfl
  | parseValue value => simp only [ScalarType.call, callParseValue, bound.parseValue]; rfl
  | parseLiteral literal bindings =>
    simp only [ScalarType.call, callParseLiteral, bound.parseLiteral]; rfl

theorem bindEach_append (type : ScalarType) (first second : List Issued) :
    type.bindEach (first ++ second) = (type.bindEach first).bindEach second :=
  List.foldl_append

theorem bindEach_boundTo (type : ScalarType) {definitions : List Issued} {last : Issued}
    (ends : definitions.getLast? = some last) : (type.bindEach definitions).BoundTo last := by
  obtain ⟨before, rfl⟩ := List.getLast?_eq_some_iff.mp ends
  rw [bindEach_append]
  exact ⟨rfl, rfl, rfl⟩

/-- The first of the definitions that is described at all. -/
def firstDescription (definitions : List Issued) : Option Value :=
  (definitions.map fun issued => issued.definition.description).find? Value.truthy

theorem description_bindEach (type : ScalarType) (definitions : List Issued) :
    (type.bindEach definitions).description =
      if type.description.truthy then type.description
      else (firstDescription definitions).getD type.description := by
  induction definitions generalizing type with
  | nil => simp [bindEach, firstDescription]
  | cons issued rest ih =>
    have step : type.bindEach (issued :: rest) = (type.bind issued).bindEach rest := rfl
    rw [step, ih]
    -- Either the type is described already, or by this definition, or it is as it was.
    cases described : type.description.truthy <;>
      cases describes : issued.definition.description.truthy <;>
        simp [bind, firstDescription, described, describes]

/-- Binding the same definitions again finds everything in place. -/
theorem bindEach_bindEach (type : ScalarType) (definitions : List Issued) :
    (type.bindEach definitions).bindEach definitions = type.bindEach definitions := by
  cases ends : definitions.getLast? with
  | none =>
    rw [List.getLast?_eq_none_iff.mp ends]
    rfl
  | some last =>
    have once := type.bindEach_boundTo ends
    have twice := (type.bindEach definitions).bindEach_boundTo ends
    have described : ((type.bindEach definitions).bindEach definitions).description =
        (type.bindEach definitions).description := by
      rw [description_bindEach (type.bindEach definitions), description_bindEach type]
      cases known : type.description.truthy <;>
        cases found : firstDescription definitions <;> simp [known]
    generalize type.bindEach definitions = bound at once twice described ⊢
    generalize bound.bindEach definitions = again at twice described ⊢
    cases bound
    cases again
    simp only [ScalarType.mk.injEq]
    exact ⟨described, twice.serialize.trans once.serialize.symm,
      twice.parseValue.trans once.parseValue.symm,
      twice.parseLiteral.trans once.parseLiteral.symm⟩

end ScalarType

namespace Schema

/-- The definitions of a name, in their order. -/
def namedAmong (definitions : List Issued) (name : String) : List Issued :=
  definitions.filter fun issued => issued.name = name

/-- A type after the definitions of its name were bound to it. -/
def bindNamed (definitions : List Issued) (name : String) : SchemaType → SchemaType
  | .scalar type => .scalar (type.bindEach (namedAmong definitions name))
  | .other kind => .other kind

/-- A schema declares a scalar of the definition's name. -/
def Fits (schema : Schema) (issued : Issued) : Prop :=
  ∃ type, schema.lookup issued.name = some (.scalar type)

theorem lookup_bindNamed (schema : Schema) (definitions : List Issued) (name : String) :
    (schema.adjust (bindNamed definitions)).lookup name =
      (schema.lookup name).map (bindNamed definitions name) :=
  schema.lookup_adjust _ name

/-- Which definitions fit does not depend on what is bound. -/
theorem fits_adjust_iff {schema : Schema} {definitions : List Issued} {issued : Issued} :
    Fits (schema.adjust (bindNamed definitions)) issued ↔ schema.Fits issued := by
  rw [Fits, Fits, lookup_bindNamed]
  rcases schema.lookup issued.name with _ | type | kind
  · simp
  · simp [bindNamed]
  · simp [bindNamed]

theorem bindNamed_append (first second : List Issued) (name : String) (type : SchemaType) :
    bindNamed second name (bindNamed first name type) = bindNamed (first ++ second) name type := by
  cases type with
  | scalar type => simp only [bindNamed, namedAmong, List.filter_append, ScalarType.bindEach_append]
  | other kind => rfl

variable {schema : Schema} {definitions before : List Issued} {issued : Issued}

theorem bindOne_of_fits (distinct : schema.names.Nodup) (fits : schema.Fits issued) :
    schema.bindOne issued = .ok (schema.adjust (bindNamed [issued])) := by
  obtain ⟨type, declared⟩ := fits
  have own : bindNamed [issued] issued.name (.scalar type) = .scalar (type.bind issued) := by
    simp [bindNamed, namedAmong, ScalarType.bindEach]
  have written : schema.put issued.name (.scalar (type.bind issued)) =
      schema.adjust (bindNamed [issued]) := by
    rw [← own, Table.put_eq_adjust distinct declared (bindNamed [issued] issued.name)]
    refine Table.adjust_congr fun name present => ?_
    -- For any other name there is no definition in the list.
    by_cases here : name = issued.name
    · rw [if_pos here, here]
    · cases present <;> simp [bindNamed, namedAmong, ScalarType.bindEach, here, Ne.symm here]
  simp only [bindOne, declared, written]

theorem bindOne_of_misfit (misfit : ¬ schema.Fits issued) :
    ∃ fault, schema.bindOne issued = .error fault ∧ fault.category = .binding := by
  cases declared : schema.lookup issued.name with
  | none =>
    refine ⟨.undeclaredType issued.definition.nameValue, ?_, rfl⟩
    simp only [bindOne, declared]
  | some type =>
    cases type with
    | scalar type => exact absurd ⟨type, declared⟩ misfit
    | other kind =>
      refine ⟨.notScalarType issued.definition.nameValue kind, ?_, rfl⟩
      simp only [bindOne, declared]

/-- Definitions that all fit are all bound, each to the type of its name. -/
theorem bindAll_of_fits (distinct : schema.names.Nodup)
    (fits : ∀ issued ∈ definitions, schema.Fits issued) :
    schema.bindAll definitions =
      ⟨schema.adjust (bindNamed definitions), definitions.map Issued.name, none⟩ := by
  induction definitions generalizing schema with
  | nil =>
    have untouched : schema.adjust (bindNamed []) = schema :=
      Table.adjust_id fun name _ type => by cases type <;> rfl
    simp [bindAll, untouched]
  | cons issued rest ih =>
    have first := bindOne_of_fits distinct (fits issued List.mem_cons_self)
    have stillDistinct : (schema.adjust (bindNamed [issued])).names.Nodup := by
      rwa [Table.names_adjust]
    -- The rest is bound to a schema that declares the same names, so what fitted still fits.
    have others := ih stillDistinct
      fun other member => fits_adjust_iff.mpr (fits other (List.mem_cons_of_mem issued member))
    have joined : Table.adjust (schema.adjust (bindNamed [issued])) (bindNamed rest) =
        schema.adjust (bindNamed (issued :: rest)) := by
      rw [Table.adjust_adjust]
      exact Table.adjust_congr fun name type => bindNamed_append [issued] rest name type
    simp only [bindAll, first, others, joined, List.map_cons]

/-- More definitions are bound to the schema that the first ones leave, unless those are stopped. -/
theorem bindAll_append {first : List Issued} (done : (schema.bindAll first).fault = none)
    (second : List Issued) :
    schema.bindAll (first ++ second) =
      { (schema.bindAll first).schema.bindAll second with
        scalars := (schema.bindAll first).scalars ++
          ((schema.bindAll first).schema.bindAll second).scalars } := by
  induction first generalizing schema with
  | nil => rfl
  | cons issued rest ih =>
    cases bound : schema.bindOne issued with
    | error fault => simp [bindAll, bound] at done
    | ok next =>
      simp only [bindAll, bound] at done
      simp [bindAll, bound, ih done]

/-- A definition that does not fit is refused in the same way whatever was bound before. -/
theorem bindOne_adjust_of_misfit (misfit : ¬ schema.Fits issued) (definitions : List Issued) :
    bindOne (schema.adjust (bindNamed definitions)) issued = schema.bindOne issued := by
  simp only [bindOne, lookup_bindNamed]
  cases declared : schema.lookup issued.name with
  | none => rfl
  | some type =>
    cases type with
    | scalar type => exact absurd ⟨type, declared⟩ misfit
    | other kind => rfl

/-- The first definition that does not fit stops the binding, and those before it stay bound. -/
theorem bindAll_of_misfit (distinct : schema.names.Nodup)
    (fits : ∀ issued ∈ before, schema.Fits issued) (misfit : ¬ schema.Fits issued)
    (rest : List Issued) :
    ∃ fault, schema.bindOne issued = .error fault ∧ fault.category = .binding ∧
      schema.bindAll (before ++ issued :: rest) =
        { schema.bindAll before with fault := some fault } := by
  have bound := bindAll_of_fits distinct fits
  obtain ⟨fault, stopped, binding⟩ := bindOne_of_misfit misfit
  have later : (schema.bindAll before).schema.bindOne issued = .error fault := by
    rw [bound, bindOne_adjust_of_misfit misfit, stopped]
  refine ⟨fault, stopped, binding, ?_⟩
  rw [bindAll_append (by rw [bound])]
  simp [bindAll, later]

/-- Either all definitions fit, or one of them is the first that does not. -/
theorem fits_or_misfit (schema : Schema) (definitions : List Issued) :
    (∀ issued ∈ definitions, schema.Fits issued) ∨
      ∃ before issued rest, definitions = before ++ issued :: rest ∧
        (∀ other ∈ before, schema.Fits other) ∧ ¬ schema.Fits issued := by
  induction definitions with
  | nil => exact Or.inl (List.forall_mem_nil _)
  | cons first others ih =>
    by_cases fits : schema.Fits first
    · rcases ih with all | ⟨before, issued, rest, rfl, allBefore, misfit⟩
      · exact Or.inl (List.forall_mem_cons.mpr ⟨fits, all⟩)
      · exact Or.inr ⟨first :: before, issued, rest, rfl,
          List.forall_mem_cons.mpr ⟨fits, allBefore⟩, misfit⟩
    · exact Or.inr ⟨[], first, others, rfl, List.forall_mem_nil _, fits⟩

theorem fault_eq_none_iff (distinct : schema.names.Nodup) :
    (schema.bindAll definitions).fault = none ↔ ∀ issued ∈ definitions, schema.Fits issued := by
  rcases schema.fits_or_misfit definitions with fits | ⟨before, issued, rest, rfl, fits, misfit⟩
  · simp only [bindAll_of_fits distinct fits, true_iff]
    exact fits
  · obtain ⟨fault, -, -, stopped⟩ := bindAll_of_misfit distinct fits misfit rest
    simp only [stopped, reduceCtorEq, false_iff]
    exact fun all => misfit (all issued (by simp))

/-- Whether or not the list is bound to its end, what was bound changes types by name. -/
theorem bindAll_schema_eq (distinct : schema.names.Nodup) (definitions : List Issued) :
    ∃ bound, (schema.bindAll definitions).schema = schema.adjust (bindNamed bound) := by
  rcases schema.fits_or_misfit definitions with fits | ⟨before, issued, rest, rfl, fits, misfit⟩
  · exact ⟨definitions, by rw [bindAll_of_fits distinct fits]⟩
  · obtain ⟨fault, -, -, stopped⟩ := bindAll_of_misfit distinct fits misfit rest
    exact ⟨before, by rw [stopped, bindAll_of_fits distinct fits]⟩

theorem bindNamed_bindNamed (definitions : List Issued) (name : String) (type : SchemaType) :
    bindNamed definitions name (bindNamed definitions name type) =
      bindNamed definitions name type := by
  cases type with
  | scalar type => simp only [bindNamed, ScalarType.bindEach_bindEach]
  | other kind => rfl

theorem bindAll_bindAll_of_fits (distinct : schema.names.Nodup)
    (fits : ∀ issued ∈ definitions, schema.Fits issued) :
    (schema.bindAll definitions).schema.bindAll definitions = schema.bindAll definitions := by
  have again : ∀ issued ∈ definitions, Fits (schema.adjust (bindNamed definitions)) issued :=
    fun issued member => fits_adjust_iff.mpr (fits issued member)
  rw [bindAll_of_fits distinct fits, bindAll_of_fits (by rwa [Table.names_adjust]) again,
    Table.adjust_adjust]
  simp only [bindNamed_bindNamed]

/-- Binding a list again changes nothing, and where it stops it stops for the same reason. -/
theorem bindAll_bindAll (distinct : schema.names.Nodup) (definitions : List Issued) :
    (schema.bindAll definitions).schema.bindAll definitions = schema.bindAll definitions := by
  rcases schema.fits_or_misfit definitions with fits | ⟨before, issued, rest, rfl, fits, misfit⟩
  · exact bindAll_bindAll_of_fits distinct fits
  · obtain ⟨fault, refused, -, stopped⟩ := bindAll_of_misfit distinct fits misfit rest
    have once := bindAll_of_fits distinct fits
    rw [stopped]
    have stillDistinct : (schema.bindAll before).schema.names.Nodup := by
      rwa [once, Table.names_adjust]
    have stillFits : ∀ other ∈ before, (schema.bindAll before).schema.Fits other := by
      intro other member
      rw [once]
      exact fits_adjust_iff.mpr (fits other member)
    have stillMisfit : ¬ (schema.bindAll before).schema.Fits issued := by
      rw [once]
      exact fun later => misfit (fits_adjust_iff.mp later)
    obtain ⟨other, refusedAgain, -, stoppedAgain⟩ :=
      bindAll_of_misfit stillDistinct stillFits stillMisfit rest
    -- The second time it is the same definition that does not fit, and it is told the same.
    rw [once, bindOne_adjust_of_misfit misfit, refused] at refusedAgain
    cases refusedAgain
    rw [stoppedAgain, bindAll_bindAll_of_fits distinct fits]

/-- Where names differ there is one definition of a name at most, and no order among such. -/
theorem namedAmong_perm {others : List Issued} (perm : definitions.Perm others)
    (differ : (definitions.map Issued.name).Nodup) (name : String) :
    namedAmong definitions name = namedAmong others name := by
  have same : (namedAmong definitions name).map Issued.name =
      List.replicate (namedAmong definitions name).length name := by
    refine List.map_eq_replicate_iff.mpr fun issued member => ?_
    simpa using (List.mem_filter.mp member).2
  -- All the definitions of a name have that name, and no name stands twice.
  have short : (namedAmong definitions name).length ≤ 1 := by
    have once : ((namedAmong definitions name).map Issued.name).Nodup :=
      differ.sublist (List.filter_sublist.map Issued.name)
    rwa [same, List.nodup_replicate] at once
  have named : (namedAmong definitions name).Perm (namedAmong others name) := perm.filter _
  generalize namedAmong definitions name = here at short named
  match here, short with
  | [], _ => exact (List.nil_perm.mp named).symm
  | [issued], _ => exact List.singleton_perm.mp named

/-- Binding the definitions comes to this in every library, to which the scalars are reported that
were bound. -/
def Binds (schema : Schema) (definitions : List Issued) (bound : Bound) : Prop :=
  ∀ library, (schema.bindScalars definitions).perform library =
    (.ok bound, { library with events := library.events ++ bound.scalars.map .bound })

theorem binds_bindAll (schema : Schema) (definitions : List Issued) :
    schema.Binds definitions (schema.bindAll definitions) := fun _ => rfl

theorem Binds.eq_bindAll {bound : Bound} (binds : schema.Binds definitions bound) :
    bound = schema.bindAll definitions := by
  have answers := congrArg Prod.fst (binds .initial)
  exact (Except.ok.inj answers).symm

/-- A schema that was read from a text, with whatever was bound to it since. -/
inductive Reached : Schema → Prop where
  | declared {declarations : List Declaration} {schema : Schema} :
      declare declarations = .ok schema → Reached schema
  | bound {schema : Schema} {definitions : List Issued} {bound : Bound} :
      Reached schema → schema.Binds definitions bound → Reached bound.schema

theorem nodup_of_checkDistinct {names : List String} {checked : Unit}
    (distinct : SchemaText.checkDistinct names = .ok checked) : names.Nodup := by
  rw [List.nodup_iff_count_le_one]
  intro name
  unfold SchemaText.checkDistinct at distinct
  split at distinct
  · cases distinct
  next none =>
    by_cases member : name ∈ names
    · simpa using List.find?_eq_none.mp none name member
    · rw [List.count_eq_zero_of_not_mem member]
      exact Nat.zero_le 1

theorem names_ofDeclarations (declarations : List Declaration) :
    (ofDeclarations declarations).names =
      queryTypeName :: declarations.map Declaration.name := by
  simp [ofDeclarations, Table.names, Function.comp_def]

theorem Reached.names_nodup (reached : schema.Reached) : schema.names.Nodup := by
  induction reached with
  | @declared declarations schema declared =>
    obtain ⟨readable, -, rest⟩ := bind_eq_ok_iff.mp declared
    obtain ⟨distinct, checked, made⟩ := bind_eq_ok_iff.mp rest
    cases made
    rw [names_ofDeclarations]
    exact nodup_of_checkDistinct checked
  | @bound schema definitions bound _ binds ih =>
    obtain ⟨fitting, changed⟩ := bindAll_schema_eq ih definitions
    rwa [binds.eq_bindAll, changed, Table.names_adjust]

theorem fault_binding (distinct : schema.names.Nodup) {fault : Fault}
    (stopped : (schema.bindAll definitions).fault = some fault) : fault.category = .binding := by
  rcases schema.fits_or_misfit definitions with fits | ⟨before, issued, rest, rfl, fits, misfit⟩
  · rw [bindAll_of_fits distinct fits] at stopped
    cases stopped
  · obtain ⟨reason, -, binding, bound⟩ := bindAll_of_misfit distinct fits misfit rest
    rw [bound] at stopped
    cases stopped
    exact binding

/-- What a list that is bound to its end makes of a scalar type. -/
theorem scalarType?_bindAll (distinct : schema.names.Nodup)
    (fits : ∀ issued ∈ definitions, schema.Fits issued) {name : String} {type : ScalarType}
    (declared : schema.scalarType? name = some type) :
    (schema.bindAll definitions).schema.scalarType? name =
      some (type.bindEach (namedAmong definitions name)) := by
  have here : schema.lookup name = some (.scalar type) := by
    unfold scalarType? at declared
    split at declared
    next found =>
      cases declared
      exact found
    · cases declared
  rw [bindAll_of_fits distinct fits]
  simp only [scalarType?, lookup_bindNamed, here, Option.map_some, bindNamed]

theorem lookup_other_bindAll (distinct : schema.names.Nodup) (definitions : List Issued)
    {name : String} {kind : TypeKind} (declared : schema.lookup name = some (.other kind)) :
    (schema.bindAll definitions).schema.lookup name = some (.other kind) := by
  obtain ⟨bound, changed⟩ := bindAll_schema_eq distinct definitions
  rw [changed, lookup_bindNamed, declared]
  rfl

theorem names_bindAll (distinct : schema.names.Nodup) (definitions : List Issued) :
    (schema.bindAll definitions).schema.names = schema.names := by
  obtain ⟨bound, changed⟩ := bindAll_schema_eq distinct definitions
  rw [changed, Table.names_adjust]

/-- Definitions of different names may be bound in any order: whether they all fit is the same, and
if they do, so is what they make of the schema. -/
theorem bindAll_perm (distinct : schema.names.Nodup) {others : List Issued}
    (perm : definitions.Perm others) (differ : (definitions.map Issued.name).Nodup) :
    ((schema.bindAll others).fault = none ↔ (schema.bindAll definitions).fault = none) ∧
      ((schema.bindAll definitions).fault = none →
        (schema.bindAll others).schema = (schema.bindAll definitions).schema) := by
  have same : (∀ issued ∈ others, schema.Fits issued) ↔
      ∀ issued ∈ definitions, schema.Fits issued :=
    forall_congr' fun issued => by rw [perm.mem_iff]
  refine ⟨?_, fun done => ?_⟩
  · rw [fault_eq_none_iff distinct, fault_eq_none_iff distinct, same]
  · have fits := (fault_eq_none_iff distinct).mp done
    rw [bindAll_of_fits distinct fits, bindAll_of_fits distinct (same.mpr fits)]
    refine Table.adjust_congr fun name type => ?_
    cases type with
    | scalar type => simp only [bindNamed, namedAmong_perm perm differ name]
    | other kind => rfl

/-- What a scalar type is after definitions were bound to its schema, all of which fit it. -/
structure Installed (definitions : List Issued) (name : String) (type bound : ScalarType) :
    Prop where
  last : ∀ last, (namedAmong definitions name).getLast? = some last →
    bound.BoundTo last ∧ ∀ operation, bound.call operation = last.definition.callEngine operation
  description : bound.description = if type.description.truthy then type.description
    else (ScalarType.firstDescription (namedAmong definitions name)).getD type.description
  unnamed : (∀ issued ∈ definitions, issued.name ≠ name) → bound = type

theorem installed_bindEach (definitions : List Issued) (name : String) (type : ScalarType) :
    Installed definitions name type (type.bindEach (namedAmong definitions name)) := by
  refine ⟨fun last ends => ?_, type.description_bindEach _, fun unnamed => ?_⟩
  · have bound := type.bindEach_boundTo ends
    exact ⟨bound, bound.call⟩
  · have none : namedAmong definitions name = [] :=
      List.filter_eq_nil_iff.mpr fun issued member => by simpa using unnamed issued member
    rw [none]
    rfl

/-- What binding a list of definitions onto a schema has to come to. -/
structure BoundWhole (schema : Schema) (definitions : List Issued) (bound : Bound) : Prop where
  stops_iff : bound.fault ≠ none ↔ ∃ issued ∈ definitions, ¬ schema.Fits issued
  binding : ∀ fault, bound.fault = some fault → fault.category = .binding
  halfway : ∀ before issued rest, definitions = before ++ issued :: rest →
    (∀ other ∈ before, schema.Fits other) → ¬ schema.Fits issued →
    ∀ earlier, schema.Binds before earlier →
      earlier.fault = none ∧ bound.schema = earlier.schema
  installed : bound.fault = none → ∀ name type, schema.scalarType? name = some type →
    ∃ after, bound.schema.scalarType? name = some after ∧ Installed definitions name type after
  names : bound.schema.names = schema.names
  others : ∀ name kind, schema.lookup name = some (.other kind) →
    bound.schema.lookup name = some (.other kind)
  again : bound.schema.Binds definitions bound
  perm : ∀ reordered other, definitions.Perm reordered → (definitions.map Issued.name).Nodup →
    schema.Binds reordered other →
    (other.fault = none ↔ bound.fault = none) ∧
      (bound.fault = none → other.schema = bound.schema)

/-- Binding a list of definitions onto a schema stops, with a binding fault, exactly when one of
them is named like no declared scalar, and then those before the first such one are bound. When it
does not stop, a type has the functions of the last definition of its name and, unless it was
described, the description of the first that has one; without a definition it is as it was. In any
case types neither come nor go, those that are no scalars stay, and binding the list again changes
nothing; and where names differ their order does not matter. -/
theorem bindScalars_whole (reached : schema.Reached) (definitions : List Issued) :
    ∃ bound, schema.Binds definitions bound ∧ BoundWhole schema definitions bound := by
  have distinct := reached.names_nodup
  refine ⟨_, binds_bindAll schema definitions, ?_, fun fault => fault_binding distinct, ?_, ?_,
    names_bindAll distinct definitions, fun name kind => lookup_other_bindAll distinct definitions,
    ?_, ?_⟩
  · rw [Ne, fault_eq_none_iff distinct]
    simp only [not_forall, exists_prop]
  · rintro before issued rest rfl fits misfit earlier binds
    obtain ⟨fault, -, -, stopped⟩ := bindAll_of_misfit distinct fits misfit rest
    rw [binds.eq_bindAll, stopped]
    exact ⟨(fault_eq_none_iff distinct).mpr fits, rfl⟩
  · -- What becomes of a type is said by the definitions of its name, in their order.
    intro done name type declared
    have fits := (fault_eq_none_iff distinct).mp done
    exact ⟨_, scalarType?_bindAll distinct fits declared, installed_bindEach definitions name type⟩
  · have again := binds_bindAll (schema.bindAll definitions).schema definitions
    rwa [bindAll_bindAll distinct definitions] at again
  · intro reordered other perm differ binds
    rw [binds.eq_bindAll]
    exact bindAll_perm distinct perm differ

/-- Two definitions of one name are bound, the second of which describes the type; a definition that
is named like an object type stops the binding after them. -/
theorem bindScalars_whole_of_photo :
    let schema := ofDeclarations [⟨"Photo", .scalar, .null⟩, ⟨"Album", .object, .null⟩]
    let plain : Issued := ⟨1, { Image.standardScalar with name := "Photo", description := .null }⟩
    let described : Issued := ⟨2, { Image.standardScalar with name := "Photo" }⟩
    let album : Issued := ⟨3, { Image.standardScalar with name := "Album" }⟩
    schema.Reached ∧
      ∃ bound stopped, schema.Binds [plain, described, plain] bound ∧
        schema.Binds [plain, described, plain, album, described] stopped ∧
        (∃ type, bound.schema.scalarType? "Photo" = some type ∧ type.BoundTo plain ∧
          type.description = .ofText Image.scalarDescription) ∧
        stopped.fault ≠ none ∧ stopped.schema = bound.schema := by
  intro schema plain described album
  have declared :
      declare [⟨"Photo", .scalar, .null⟩, ⟨"Album", .object, .null⟩] = .ok schema := rfl
  have reached : schema.Reached := .declared declared
  have misfit : ¬ schema.Fits album := by
    rintro ⟨type, declared⟩
    cases declared
  have fits : ∀ other ∈ [plain, described, plain], schema.Fits other := by
    intro other member
    simp only [List.mem_cons, List.not_mem_nil, or_false] at member
    rcases member with rfl | rfl | rfl <;> exact ⟨.declared .null, rfl⟩
  obtain ⟨bound, binds, whole⟩ := bindScalars_whole reached [plain, described, plain]
  obtain ⟨stopped, bindsToo, halted⟩ :=
    bindScalars_whole reached [plain, described, plain, album, described]
  obtain ⟨done, same⟩ :=
    halted.halfway [plain, described, plain] album [described] rfl fits misfit bound binds
  obtain ⟨type, found, installed⟩ := whole.installed done "Photo" _ rfl
  refine ⟨reached, bound, stopped, binds, bindsToo, ⟨type, found, ?_, ?_⟩, ?_, same⟩
  · exact (installed.last plain rfl).1
  · exact installed.description
  · exact halted.stops_iff.mpr ⟨album, by simp, misfit⟩

end Schema

end CustomScalars
