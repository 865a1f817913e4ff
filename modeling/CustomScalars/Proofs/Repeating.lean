import CustomScalars.Proofs.Startup

/-!
# Actions that repeat themselves

An action that reads settings leaves more remembered than it found. When it is taken once more, with
all that is remembered now, a lookup that succeeded succeeds again and adds nothing to the memory,
and one that was refused is refused again. The answer is the same where the setting has a default.
Where it has none the answer may be another one the second time: what one schema was answered by the
fallback, another one that shares its name in the memory may have found. An action repeats itself if
its second run ends as the first one did all the same.
-/
namespace CustomScalars

namespace Settings

variable {settings before after : Settings} {key : String} {schema : Value}

/-- The lookup adds nothing to the memory: what it finds is there, or it finds nothing. -/
def Noted (settings : Settings) (key : String) (schema : Value) : Prop :=
  (∃ value, settings.Recalls key schema value) ∨
    settings.layers.resolve (effectiveSchema schema settings.reader.schema) (path key) = .ok none

theorem Noted.readTo (noted : before.Noted key schema) (read : before.ReadTo after) :
    after.Noted key schema := by
  rcases noted with ⟨value, recalls⟩ | nothing
  · exact Or.inl ⟨value, recalls.readTo read⟩
  · right
    rwa [read.layers, read.schema]

theorem Noted.read (noted : settings.Noted key schema) (fallback : Value) :
    ∃ value, settings.read key fallback schema = (.ok value, settings) := by
  rcases noted with ⟨value, recalls⟩ | nothing
  · exact ⟨value, recalls.read fallback⟩
  cases held : settings.reader.recalled (effectiveSchema schema settings.reader.schema) key with
  | some value => exact ⟨value, Recalls.read held fallback⟩
  | none =>
    refine ⟨fallback, ?_⟩
    rw [Settings.read, Reader.read_of_forgotten held, Layers.uncached, nothing]
    rfl

theorem noted_read {fallback value : Value}
    (answered : (settings.read key fallback schema).1 = .ok value) :
    (settings.read key fallback schema).2.Noted key schema := by
  obtain ⟨value, recalls, read⟩ | ⟨fault, read⟩ | ⟨nothing, read⟩ |
      ⟨value, after, -, read, recalls⟩ := read_cases settings key fallback schema
  · rw [read]
    exact Or.inl ⟨value, recalls⟩
  · rw [read] at answered
    cases answered
  · rw [read]
    exact Or.inr nothing
  · rw [read]
    exact Or.inl ⟨value, recalls⟩

/-- A lookup that is refused leaves nothing behind. -/
theorem read_of_refused {fallback : Value} {fault : Fault}
    (refused : (settings.read key fallback schema).1 = .error fault) :
    settings.read key fallback schema = (.error fault, settings) := by
  obtain ⟨value, -, read⟩ | ⟨other, read⟩ | ⟨-, read⟩ | ⟨value, after, -, read, -⟩ :=
    read_cases settings key fallback schema
  · rw [read] at refused
    cases refused
  · rw [read] at refused ⊢
    cases refused
    rfl
  · rw [read] at refused
    cases refused
  · rw [read] at refused
    cases refused

end Settings

namespace Library

/-- Nothing but reports was added. -/
structure SameState (library other : Library) : Prop where
  settings : other.settings = library.settings
  registry : other.registry = library.registry

theorem SameState.trans {first second third : Library} (same : first.SameState second)
    (next : second.SameState third) : first.SameState third :=
  ⟨next.settings.trans same.settings, next.registry.trans same.registry⟩

end Library

namespace Action

variable {α β γ δ : Type}

/-- Where the first action ended well, the second one does so with a related answer in any library
that has only been read from since. Where the first one ended in a fault, the second one ends in it
in the library as it was left. The second action changes nothing. -/
structure Repeats (related : α → β → Prop) (action : Action α) (again : Action β) : Prop where
  ok : ∀ library value after, Effect.outcome action library = (.ok value, after) →
    ∀ later : Library, after.settings.ReadTo later.settings → later.registry = after.registry →
    ∃ other final, Effect.outcome again later = (.ok other, final) ∧ related value other ∧
      later.SameState final
  error : ∀ library fault after, Effect.outcome action library = (.error fault, after) →
    ∀ later, after.SameState later →
    ∃ final, Effect.outcome again later = (.error fault, final) ∧ later.SameState final

/-- The action never fails and changes nothing. -/
def Idle (action : Action Unit) : Prop :=
  ∀ library, ∃ after, Effect.outcome action library = (.ok (), after) ∧ library.SameState after

theorem idle_report (event : Event) : Idle (report event) :=
  fun library => ⟨library.reported event, rfl, rfl, rfl⟩

namespace Repeats

variable {related : α → β → Prop} {relatedNext : γ → δ → Prop}

theorem pure {value : α} {other : β} (holds : related value other) :
    Repeats related (Pure.pure value) (Pure.pure other) where
  ok := by
    rintro library _ _ ⟨⟩ later - -
    exact ⟨other, later, rfl, holds, rfl, rfl⟩
  error := by
    rintro library fault after ⟨⟩

theorem throw (fault : Fault) :
    Repeats related (MonadExcept.throw fault) (MonadExcept.throw fault) where
  ok := by
    rintro library value after ⟨⟩
  error := by
    rintro library _ _ ⟨⟩ later same
    exact ⟨later, rfl, rfl, rfl⟩

/-- What follows the first part sees the first part's answer. Its own reads come after those of the
first part, so these are all that the first part has to last through. -/
theorem bind {action : Action α} {again : Action β} {next : α → Action γ} {nextAgain : β → Action δ}
    (first : Repeats related action again) (consults : ∀ value, Consults (next value))
    (rest : ∀ value other, related value other →
      Repeats relatedNext (next value) (nextAgain other)) :
    Repeats relatedNext (action >>= next) (again >>= nextAgain) where
  ok := by
    intro library result after ended later read registry
    obtain ⟨value, between, started, went⟩ := Effect.ok_of_outcome_bind_ok ended
    have consult : between.ConsultTo after := by
      have since : between.ConsultTo (Effect.outcome (next value) between).2 :=
        (consults value).related .refl
      rwa [went] at since
    -- Since the first part ended, the second part and whatever came later have read.
    obtain ⟨other, final, restarted, holds, same⟩ := first.ok library value between started later
      (consult.readTo.trans read) (registry.trans consult.registry)
    obtain ⟨last, ending, finished, holdsNext, sameNext⟩ := (rest value other holds).ok between
      result after went final (same.settings ▸ read) (same.registry.trans registry)
    refine ⟨last, ending, ?_, holdsNext, same.trans sameNext⟩
    rw [Effect.outcome_bind, restarted]
    exact finished
  error := by
    intro library fault after ended later since
    rw [Effect.outcome_bind] at ended
    generalize started : Effect.outcome action library = between at ended
    obtain ⟨early | value, between⟩ := between
    · -- The fault is the first part's own.
      cases ended
      obtain ⟨final, restarted, same⟩ := first.error library fault after started later since
      exact ⟨final, by rw [Effect.outcome_bind, restarted], same⟩
    · -- The first part ended well before the second one failed, and does so again.
      replace ended : Effect.outcome (next value) between = (.error fault, after) := ended
      have consult : between.ConsultTo after := by
        have since : between.ConsultTo (Effect.outcome (next value) between).2 :=
          (consults value).related .refl
        rwa [ended] at since
      obtain ⟨other, final, restarted, holds, same⟩ := first.ok library value between started later
        (since.settings ▸ consult.readTo) (since.registry.trans consult.registry)
      obtain ⟨ending, finished, sameNext⟩ := (rest value other holds).error between fault after
        ended final (since.trans same)
      refine ⟨ending, ?_, same.trans sameNext⟩
      rw [Effect.outcome_bind, restarted]
      exact finished

theorem ofExcept {result : Except Fault α} (related : α → α → Prop)
    (holds : ∀ value, related value value) :
    Repeats related (Action.ofExcept result) (Action.ofExcept result) := by
  cases result with
  | ok value => exact .pure (holds value)
  | error fault => exact .throw fault

theorem idle {action again : Action Unit} (first : Idle action) (second : Idle again) :
    Repeats (fun _ _ => True) action again where
  ok := by
    intro library value after _ later _ _
    obtain ⟨final, ended, same⟩ := second later
    exact ⟨(), final, ended, trivial, same⟩
  error := by
    intro library fault after ended later _
    obtain ⟨final, well, -⟩ := first library
    rw [well] at ended
    cases ended

/-- The layers and the registry stay what they were. -/
theorem get : Repeats (fun library other => other.settings.layers = library.settings.layers ∧
    other.registry = library.registry) MonadState.get MonadState.get where
  ok := by
    rintro library _ _ ⟨⟩ later read registry
    exact ⟨later, later, rfl, ⟨read.layers, registry⟩, rfl, rfl⟩
  error := by
    rintro library fault after ⟨⟩

theorem readSetting (key : String) (fallback schema : Value) :
    Repeats (fun value other => Settings.HasDefault key → other = value)
      (Action.readSetting key fallback schema) (Action.readSetting key fallback schema) where
  ok := by
    intro library value after ended later read _
    rw [outcome_readSetting] at ended
    obtain ⟨answered, rfl⟩ := Prod.mk.inj ended
    -- What was found is remembered, and what was not found is not found in the layers of now.
    obtain ⟨other, again⟩ := ((Settings.noted_read answered).readTo read).read fallback
    refine ⟨other, later, by rw [outcome_readSetting, again], fun default => ?_, rfl, rfl⟩
    have recalls := (Settings.recalls_read default answered).readTo read
    rw [recalls.read] at again
    exact (Except.ok.inj (Prod.mk.inj again).1).symm
  error := by
    intro library fault after ended later since
    rw [outcome_readSetting] at ended
    obtain ⟨refused, rfl⟩ := Prod.mk.inj ended
    have still := Settings.read_of_refused refused
    have same : later.settings = library.settings := by
      rw [since.settings, still]
    refine ⟨later, ?_, rfl, rfl⟩
    rw [outcome_readSetting, same, still]
    exact congrArg _ (congrArg (Library.mk · later.registry later.events) same.symm)

end Repeats

end Action

namespace Registry

/-- The image scalar is among both or in neither. -/
def SameImage (enabled other : Registry) : Prop :=
  (enabled.lookup Image.standardName).isSome = (other.lookup Image.standardName).isSome

/-- A scalar that is disabled is mentioned. -/
def mention (schema : Value) (scalar : String) (setting : Value) : Action Unit :=
  if setting.truthy then pure () else Action.report (.disabled scalar schema)

theorem mention_idle (schema : Value) (scalar : String) (setting : Value) :
    Action.Idle (mention schema scalar setting) := by
  unfold mention
  split
  · exact fun library => ⟨library, rfl, rfl, rfl⟩
  · exact Action.idle_report _

theorem mention_consults (schema : Value) (scalar : String) (setting : Value) :
    Action.Consults (mention schema scalar setting) := by
  unfold mention
  split
  · exact .pure ()
  · exact Action.report_consults _

/-- Listing goes on in one way after a scalar, be it enabled or not. -/
theorem enabledAmong_cons (schema : Value) (scalar : String) (issued : Issued) (rest : Registry) :
    enabledAmong schema ((scalar, issued) :: rest) =
      Action.readSetting (enabledKey scalar) (.bool true) schema >>= fun setting =>
        mention schema scalar setting >>= fun _ =>
          enabledAmong schema rest >>= fun others =>
            pure (if setting.truthy then (scalar, issued) :: others else others) := by
  rw [enabledAmong]
  congr 1
  funext setting
  by_cases enabled : setting.truthy = true <;> simp [mention, enabled]

/-- By induction on the registry. The setting of the image scalar has a default, so the image scalar
is listed again if it was. Another scalar may be listed at one time and not at the other, which
changes what is reported and not how the listing goes on. -/
theorem enabledAmong_repeats (schema : Value) (registry : Registry) :
    Action.Repeats SameImage (enabledAmong schema registry) (enabledAmong schema registry) := by
  induction registry with
  | nil => exact .pure rfl
  | cons entry rest ih =>
    obtain ⟨scalar, issued⟩ := entry
    have goOn (setting : Value) : Action.Consults (enabledAmong schema rest >>= fun others =>
        pure (if setting.truthy then (scalar, issued) :: others else others)) :=
      .bind (enabledAmong_follows Library.mild_consultTo schema rest) fun _ => .pure _
    rw [enabledAmong_cons]
    refine .bind (.readSetting _ _ _)
      (fun setting => .bind (mention_consults schema scalar setting) fun _ => goOn setting)
      fun setting other same => ?_
    refine .bind (.idle (mention_idle schema scalar setting) (mention_idle schema scalar other))
      (fun _ => goOn setting) fun _ _ _ => ?_
    refine .bind ih (fun _ => .pure _) fun others othersAgain image => .pure ?_
    by_cases standard : scalar = Image.standardName
    · -- The one scalar that counts has a default for its setting.
      rw [same (standard ▸ Startup.hasDefault_enabled)]
      by_cases enabled : setting.truthy = true
      · simp [SameImage, enabled, standard]
      · simpa [SameImage, enabled] using image
    · have passed (registry : Registry) (setting : Value) :
          (List.lookup Image.standardName
            (if setting.truthy then (scalar, issued) :: registry else registry)) =
            registry.lookup Image.standardName := by
        split
        · rw [Table.lookup_cons, if_neg (Ne.symm standard)]
        · rfl
      rw [SameImage, passed, passed]
      exact image

theorem enabled_repeats (schema : Value) :
    Action.Repeats SameImage (enabled schema) (enabled schema) := by
  refine .bind .get (fun library => enabledAmong_follows Library.mild_consultTo schema _) ?_
  rintro library other ⟨-, same⟩
  rw [same]
  exact enabledAmong_repeats schema library.registry

end Registry

namespace Startup

theorem configuredScalar_repeats (schema : Value) :
    Action.Repeats (fun _ _ => True) (Image.configuredScalar (imageRequest schema))
      (Image.configuredScalar (imageRequest schema)) := by
  have build (extensions caseSensitive : Value) : Action.Consults
      (Action.ofExcept (Image.buildScalar (.ofText Image.standardName)
        (.ofText Image.scalarDescription) extensions caseSensitive)) := Action.ofExcept_follows _
  rw [configuredScalar_imageRequest]
  refine .bind (.readSetting _ _ _)
    (fun extensions => .bind (Action.readSetting_consults _ _ _) fun caseSensitive => build _ _) ?_
  intro extensions extensionsAgain same
  refine .bind (.readSetting _ _ _) (fun caseSensitive => build _ _) ?_
  intro caseSensitive caseSensitiveAgain sameCase
  -- Both settings have a default, so the scalar is built from the same again.
  rw [same hasDefault_extensions, sameCase hasDefault_caseSensitive]
  exact .ofExcept _ fun _ => trivial

theorem validateSchema_repeats (schema : Value) :
    Action.Repeats (fun _ _ => True) (validateSchema schema) (validateSchema schema) := by
  have mild := Library.mild_consultTo
  have conclude (names : List String) : Action.Consults (Action.report (.enabled schema names)) :=
    Action.report_consults _
  refine .bind (Registry.enabled_repeats schema) (fun enabled => ?_) fun enabled other same => ?_
  · split
    · exact .bind (Image.configuredScalar_follows mild _) fun _ => conclude _
    · exact conclude _
  · have image : (enabled.lookup Image.standardName).isSome =
        (other.lookup Image.standardName).isSome := same
    by_cases listed : (enabled.lookup Image.standardName).isSome = true
    · simp only [← image, listed, if_true]
      exact .bind (configuredScalar_repeats schema) (fun _ => conclude _) fun _ _ _ =>
        .idle (Action.idle_report _) (Action.idle_report _)
    · simp only [← image, listed, if_false, Bool.false_eq_true]
      exact .idle (Action.idle_report _) (Action.idle_report _)

theorem validateEach_repeats (schemas : List Value) :
    Action.Repeats (fun _ _ => True) (validateEach schemas) (validateEach schemas) := by
  induction schemas with
  | nil => exact .pure trivial
  | cons schema rest ih =>
    exact .bind (validateSchema_repeats schema)
      (fun _ => validateEach_follows Library.mild_consultTo rest) fun _ _ _ => ih

theorem validateListed_repeats (names : Except Fault (List Value)) :
    Action.Repeats (fun _ _ => True) (validateListed names) (validateListed names) := by
  refine .bind (.ofExcept Eq fun _ => rfl)
    (fun schemas => validateEach_follows Library.mild_consultTo schemas) ?_
  rintro schemas _ rfl
  exact validateEach_repeats schemas

/-- After the check, the check ends as it did, whatever is reported in between, unless the schemas
are named by what can be gone through once. -/
theorem outcome_validate_again {library after later : Library} {answer : Except Fault Unit}
    (here : library.settings.levels ≠ []) (lasting : library.settings.passes = false)
    (validated : Effect.outcome validate library = (answer, after))
    (since : after.SameState later) :
    ∃ final, Effect.outcome validate later = (answer, final) ∧ later.SameState final := by
  have whole {library : Library} (lasting : library.settings.passes = false) :
      library.changeSettings Settings.useUp = library := by
    rw [Library.changeSettings, Settings.useUp_of_lasting lasting]
  rw [outcome_validate_of_levels here, whole lasting] at validated
  have consult : library.ConsultTo after := by
    have checked := (validateListed_follows Library.mild_consultTo
      (schemas library.settings)).related (Relation.ReflTransGen.refl : library.ConsultTo library)
    rwa [validated] at checked
  -- Reading leaves alone what the schemas are named by, and whether that was gone through.
  have frame := consult.readTo.frame
  rw [← since.settings] at frame
  have still : later.settings.levels ≠ [] := by rwa [frame]
  have stillLasting : later.settings.passes = false := by rwa [frame]
  have same : schemas later.settings = schemas library.settings := by rw [frame]; rfl
  rw [outcome_validate_of_levels still, whole stillLasting, same]
  have repeats := validateListed_repeats (schemas library.settings)
  cases answer with
  | ok done =>
    obtain ⟨_, final, again, -, kept⟩ := repeats.ok library done after validated
      later (by rw [since.settings]) since.registry
    exact ⟨final, again, kept⟩
  | error fault => exact repeats.error library fault after validated later since

end Startup

end CustomScalars
