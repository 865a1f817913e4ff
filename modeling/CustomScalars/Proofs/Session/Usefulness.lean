import CustomScalars.Proofs.Image.Usefulness
import CustomScalars.Proofs.Session.Isolation
import CustomScalars.Proofs.Session.Validation

/-!
# What the check at startup does not find

A check that passes should leave every schema that may use an image scalar with one that accepts
something. The check builds the scalar and goes no further, so it passes where the extensions of a
schema can be kept and none of them can be found. Such a scalar accepts something exactly when the
extensions that the settings have for the schema are of some use.
-/
namespace CustomScalars.Session

open Image.Rule (Useful Legible)

section
variable {session : Session}

/-- The extensions that a request for an image scalar comes to: those given with it, or those that
the settings have for its schema. -/
def ComesTo (session : Session) (request : Image.Request) (extensions : Value) : Prop :=
  if request.extensions.isNull then
    (session.step
      (.read Image.extensionsKey Image.Rule.defaultExtensions request.schema none)).1 =
        .ok (.value extensions)
  else extensions = request.extensions

theorem comesTo_of_orSetting {request : Image.Request} {extensions : Value} {after : Library}
    (given : Effect.outcome (Action.orSetting request.extensions Image.extensionsKey
      Image.Rule.defaultExtensions request.schema) session.quiet.library = (.ok extensions, after)) :
    session.ComesTo request extensions := by
  unfold Action.orSetting at given
  unfold ComesTo
  split at given
  next asked =>
    have known : session.readerOf none = some session.settings.reader := rfl
    rw [if_pos asked, read_answer known]
    rw [Action.outcome_readSetting] at given
    have answered : (session.settings.reader.read session.settings.layers Image.extensionsKey
        Image.Rule.defaultExtensions request.schema).1 = .ok extensions := (Prod.mk.inj given).1
    rw [answered]
    rfl
  next asked =>
    rw [if_neg asked]
    cases given
    rfl

theorem accepts_iff_of_built {handle : String} {request : Image.Request} {definition : Definition}
    (built : (session.step (.buildImage handle request)).1 = .ok (.definition definition)) :
    ∃ extensions, session.ComesTo request extensions ∧
      ((∃ operation emitted, definition.callEngine operation = .ok emitted) ↔
        Useful extensions) := by
  rw [step_buildImage rfl] at built
  cases done : (Effect.outcome (Image.configuredScalar request) session.quiet.library).1 with
  | error fault =>
    rw [done] at built
    cases built
  | ok result =>
    rw [done] at built
    cases built
    obtain ⟨extensions, _, given, rest⟩ := Effect.ok_of_outcome_bind_ok (Prod.ext done rfl)
    obtain ⟨caseSensitive, _, -, made⟩ := Effect.ok_of_outcome_bind_ok rest
    rw [Action.outcome_ofExcept] at made
    obtain ⟨rule, ruled, drafted⟩ := Image.buildScalar_eq_ok (Prod.mk.inj made).1
    refine ⟨extensions, comesTo_of_orSetting given, ?_⟩
    rw [← Image.Rule.typeName_of_build ruled] at drafted
    rw [(Image.checksBy_of_scalarDraft drafted).accepts_iff]
    exact Image.Rule.accepts_iff_useful ruled

end

/-- After a check that passes, an image scalar can be built wherever it is listed as enabled. -/
theorem passed_builds (steps : List Step) {host : Settings.Host}
    (configured : (Session.initial.after steps).settings.layers.host = some host)
    (lists : Startup.ListsSchemas host) (keys : Startup.NamesKeys host) {answer : Answer}
    (passed : ((Session.initial.after steps).step (.startUp true none)).1 = .ok answer) :
    ∀ schema ∈ Value.null :: Startup.schemaNames host,
      let after := ((Session.initial.after steps).step (.startUp true none)).2.2
      ∃ listing, (after.step (.enabled schema)).1 = .ok (.scalars listing) ∧
        (Image.standardName ∈ listing.names → ∀ handle, ∃ definition,
          (after.step (.buildImage handle (Startup.imageRequest schema))).1 =
            .ok (.definition definition)) := by
  intro schema member
  have ownKey : (Session.initial.after steps).settings.reader.schema.isKey = true := by
    rw [schema_after steps Session.initial]
    rfl
  obtain ⟨result, library, validates, consult, judges⟩ :=
    @Startup.validate_judges (Session.initial.after steps).quiet.library host configured lists keys
      ownKey
  rw [step_validate validates] at passed ⊢
  cases result with
  | error fault => cases passed
  | ok done =>
    let after := { (Session.initial.after steps).quiet with library := library }
    have opens : after.settings.Writes schema → after.settings.Opens schema :=
      Startup.opens_of_lists configured lists keys ownKey consult.readTo schema member
    obtain ⟨listing, listed, builds⟩ := lasts_of_accepts opens (judges.1 schema member) []
      fun _ none => nomatch none
    exact ⟨listing, listed, fun enabled => builds enabled [] fun _ none => nomatch none⟩

/-- A rule can be built that accepts something exactly when the extensions are of some use and none
of them is a number too long to be written. After a check that passes, each schema for which an
image scalar is listed as enabled has one that is built without a fault, and it accepts something
exactly when the extensions that the settings have for the schema are of some use. -/
theorem checked_accepts_iff_useful (steps : List Step) {host : Settings.Host}
    (configured : (Session.initial.after steps).settings.layers.host = some host)
    (lists : Startup.ListsSchemas host) (keys : Startup.NamesKeys host) :
    (∀ extensions caseSensitive typeName,
      (∃ rule, Image.Rule.build extensions caseSensitive typeName = .ok rule ∧
          ∃ value accepted, rule.check value = .ok (.accepted accepted)) ↔
        Useful extensions ∧ Legible extensions) ∧
      let validated := (Session.initial.after steps).step (.startUp true none)
      ∀ answer, validated.1 = .ok answer →
        ∀ schema ∈ Value.null :: Startup.schemaNames host,
          ∃ listing, (validated.2.2.step (.enabled schema)).1 = .ok (.scalars listing) ∧
            (Image.standardName ∈ listing.names → ∀ handle,
              ∃ definition,
                (validated.2.2.step (.buildImage handle (Startup.imageRequest schema))).1 =
                  .ok (.definition definition) ∧
                ∃ extensions,
                  (validated.2.2.step
                    (.read Image.extensionsKey Image.Rule.defaultExtensions schema none)).1 =
                      .ok (.value extensions) ∧
                  ((∃ operation emitted, definition.callEngine operation = .ok emitted) ↔
                    Useful extensions)) := by
  refine ⟨fun extensions caseSensitive typeName => ?_, fun answer passed schema member => ?_⟩
  · constructor
    · rintro ⟨rule, built, accepts⟩
      exact ⟨(Image.Rule.accepts_iff_useful built).mp accepts,
        (Image.Rule.exists_build_iff.mp ⟨rule, built⟩).2⟩
    · rintro ⟨useful, legible⟩
      obtain ⟨rule, built⟩ :=
        Image.Rule.exists_build_of_useful useful legible caseSensitive typeName
      exact ⟨rule, built, (Image.Rule.accepts_iff_useful built).mpr useful⟩
  · obtain ⟨listing, listed, builds⟩ :=
      passed_builds steps configured lists keys passed schema member
    refine ⟨listing, listed, fun enabled handle => ?_⟩
    obtain ⟨definition, built⟩ := builds enabled handle
    obtain ⟨extensions, comes, accepts⟩ := accepts_iff_of_built built
    exact ⟨definition, built, extensions, comes, accepts⟩

/-- Settings of an image scalar for all schemas. -/
def imageSettings (entries : Table Value) : Value :=
  .ofEntries [("custom_scalars", .ofEntries [(Image.standardName, .ofEntries entries)])]

/-- Of two extensions the first can never be found, and the second is enough. -/
theorem checked_accepts_iff_useful_of_second :
    let extensions := Value.ofTexts ["tar.gz", ".PNG"]
    let shared := imageSettings [("extensions", extensions)]
    let host : Settings.Host := ⟨some shared, some (.ofEntries []), some (.bool true)⟩
    let session := Session.initial.after [.enter (some shared) none]
    let validated := session.step (.startUp true none)
    session.settings.layers.host = some host ∧ Startup.ListsSchemas host ∧
      Startup.NamesKeys host ∧ validated.1 = .ok .nothing ∧ Useful extensions ∧
      ∃ definition,
        (validated.2.2.step (.buildImage "A" (Startup.imageRequest .null))).1 =
          .ok (.definition definition) ∧
        ∃ operation emitted, definition.callEngine operation = .ok emitted := by
  intro extensions shared host session validated
  have configured : session.settings.layers.host = some host := rfl
  have lists : Startup.ListsSchemas host := by
    intro value given truthy
    cases given
    cases truthy
  have passed : validated.1 = .ok .nothing := rfl
  have useful : Useful extensions :=
    ⟨_, rfl, .ofText ".PNG", List.mem_cons_of_mem _ List.mem_cons_self, rfl,
      by decide, by decide, by decide⟩
  have keys : Startup.NamesKeys host := nofun
  obtain ⟨-, checked⟩ :=
    checked_accepts_iff_useful [.enter (some shared) none] configured lists keys
  obtain ⟨listing, listed, builds⟩ := checked _ passed .null List.mem_cons_self
  have enabled : Image.standardName ∈ listing.names := by
    cases listed
    decide
  obtain ⟨definition, built, given, answered, accepts⟩ := builds enabled "A"
  cases answered
  exact ⟨configured, lists, keys, passed, useful, definition, built, accepts.mpr useful⟩

/-- With `tar.gz` as the only extension the check passes and an image scalar is built, which accepts
nothing in any position. -/
theorem check_passes_useless_extensions :
    let shared := imageSettings [("extensions", .ofTexts ["tar.gz"])]
    let session := Session.initial.after [.enter (some shared) none]
    let validated := session.step (.startUp true none)
    validated.1 = .ok .nothing ∧
      (∃ listing, (validated.2.2.step (.enabled .null)).1 = .ok (.scalars listing) ∧
        Image.standardName ∈ listing.names) ∧
      ∃ definition,
        (validated.2.2.step (.buildImage "A" (Startup.imageRequest .null))).1 =
          .ok (.definition definition) ∧
        ∀ operation emitted, definition.callEngine operation ≠ .ok emitted := by
  intro shared session validated
  have built : ∃ definition,
      (validated.2.2.step (.buildImage "A" (Startup.imageRequest .null))).1 =
        .ok (.definition definition) := ⟨_, rfl⟩
  obtain ⟨definition, built⟩ := built
  obtain ⟨extensions, comes, accepts⟩ := accepts_iff_of_built built
  have given : extensions = .ofTexts ["tar.gz"] := by
    cases comes
    rfl
  have useless : ¬ Useful extensions := by
    rw [given]
    rintro ⟨_, ⟨⟩, entry, member, -, -, dotless, -⟩
    rw [List.mem_singleton.mp member] at dotless
    exact absurd dotless (by decide)
  refine ⟨rfl, ⟨_, rfl, by decide⟩, definition, built, fun operation emitted called => ?_⟩
  exact useless (accepts.mp ⟨operation, emitted, called⟩)

end CustomScalars.Session
