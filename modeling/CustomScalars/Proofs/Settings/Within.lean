import CustomScalars.Proofs.Settings.Numbering

/-!
# Settings within an override

An override starts with no folders and with one level of its own, so all that is written to while it
is open was made since it was opened. By their numbers the folders and levels that it has laid aside
are others, and they are left alone, although a change is made wherever a number is. The same goes
for overrides within it, which are opened and closed before it is closed itself.
-/
namespace CustomScalars.Settings

/-- What is laid aside, innermost first, once an override is opened on the settings. -/
def aside (settings : Settings) (asks : Bool) : List Outer :=
  ⟨settings.runtime, settings.levels, asks⟩ :: settings.outer

/-- Folders that were all made since the base was left, and levels that were laid on its own. -/
structure MadeSince (base : Settings) (runtime : Runtime) (levels : List HostLevel) : Prop where
  runtime : runtime.Serials (base.nextSerial ≤ ·)
  levels : ∃ top own, levels = top :: own ++ base.levels ∧
    HostLevel.Serials (base.nextSerial ≤ ·) (top :: own)

/-- Settings within an override that was opened on a base, and within some more inside that one. -/
structure Within (base : Settings) (asks : Bool) (depth : Nat) (settings : Settings) : Prop where
  later : base.nextSerial ≤ settings.nextSerial
  schema : settings.reader.schema = base.reader.schema
  parked : settings.parked = base.parked
  here : base.MadeSince settings.runtime settings.levels
  outer : ∃ inner, inner.length = depth ∧ settings.outer = inner ++ base.aside asks ∧
    ∀ frame ∈ inner, base.MadeSince frame.runtime frame.levels

section
variable {base settings before after : Settings} {asks : Bool} {depth : Nat}

theorem Numbered.aside (numbered : base.Numbered) (asks : Bool) :
    ∀ outer ∈ base.aside asks, AsideSerials (· < base.nextSerial) outer := by
  intro outer member
  rcases List.mem_cons.mp member with rfl | further
  · exact ⟨numbered.runtime, numbered.levels⟩
  · exact numbered.outer outer further

/-- Writing to a folder that was made later does nothing to those laid aside. -/
theorem Numbered.aside_fill (numbered : base.Numbered) (asks : Bool) {serial : Nat}
    (later : base.nextSerial ≤ serial) (sections : Sections) :
    ((base.aside asks).map fun outer =>
      { outer with runtime := outer.runtime.fill serial sections }) = base.aside asks := by
  have untouched : ∀ outer ∈ base.aside asks,
      ({ outer with runtime := outer.runtime.fill serial sections } : Outer) = outer := by
    intro outer member
    -- The number had not been given out when these folders were laid aside.
    have absent : outer.runtime.Serials (· ≠ serial) :=
      (numbered.aside asks outer member).runtime.imp fun n below => by omega
    rw [Runtime.fill_of_absent absent]
  exact (List.map_congr_left untouched).trans (List.map_id' _)

theorem Numbered.amend_levels (numbered : base.Numbered) {serial : Nat}
    (later : base.nextSerial ≤ serial) (change : HostLevel → HostLevel) :
    amend serial change base.levels = base.levels :=
  amend_of_absent (numbered.levels.imp fun n below => by omega) change

/-- Changing a level that was made later does nothing to those laid aside. -/
theorem Numbered.aside_amend (numbered : base.Numbered) (asks : Bool) {serial : Nat}
    (later : base.nextSerial ≤ serial) (change : HostLevel → HostLevel) :
    ((base.aside asks).map fun outer =>
      { outer with levels := amend serial change outer.levels }) = base.aside asks := by
  have untouched : ∀ outer ∈ base.aside asks,
      ({ outer with levels := amend serial change outer.levels } : Outer) = outer := by
    intro outer member
    have absent : HostLevel.Serials (· ≠ serial) outer.levels :=
      (numbered.aside asks outer member).levels.imp fun n below => by omega
    rw [amend_of_absent absent]
  exact (List.map_congr_left untouched).trans (List.map_id' _)

theorem Numbered.parked_amend (numbered : base.Numbered) {serial : Nat}
    (later : base.nextSerial ≤ serial) (change : HostLevel → HostLevel) :
    base.parked.map (amend serial change) = base.parked := by
  cases parked : base.parked with
  | none => rfl
  | some levels =>
    have absent : HostLevel.Serials (· ≠ serial) levels :=
      (numbered.parked levels parked).imp fun n below => by omega
    rw [Option.map_some, amend_of_absent absent]

theorem MadeSince.fill {runtime : Runtime} {levels : List HostLevel}
    (since : base.MadeSince runtime levels) (serial : Nat) (sections : Sections) :
    base.MadeSince (runtime.fill serial sections) levels :=
  ⟨since.runtime.fill serial sections, since.levels⟩

theorem MadeSince.amend {runtime : Runtime} {levels : List HostLevel}
    (since : base.MadeSince runtime levels) (numbered : base.Numbered) {serial : Nat}
    (later : base.nextSerial ≤ serial) {change : HostLevel → HostLevel}
    (same : ∀ level, (change level).serial = level.serial) :
    base.MadeSince runtime (Settings.amend serial change levels) := by
  obtain ⟨top, own, rfl, serials⟩ := since.levels
  -- Of the levels in use only those laid on the base's can be the one that is changed.
  have kept := numbered.amend_levels later change
  have changed := serials.amend serial same
  simp only [Settings.amend, List.map_append, List.map_cons] at kept changed ⊢
  exact ⟨since.runtime, _, _, by rw [kept], changed⟩

theorem Within.levels_ne_nil (within : Within base asks depth settings) :
    settings.levels ≠ [] := by
  obtain ⟨top, own, levels, -⟩ := within.here.levels
  rw [levels]
  exact List.cons_ne_nil _ _

theorem Within.readTo (within : Within base asks depth before) (read : before.ReadTo after) :
    Within base asks depth after := by
  have schema := read.schema.trans within.schema
  rw [read.frame]
  exact ⟨within.later, schema, within.parked, within.here, within.outer⟩

theorem Within.clear (within : Within base asks depth settings) :
    Within base asks depth settings.clear :=
  ⟨within.later, within.schema, within.parked, within.here, within.outer⟩

theorem Within.withSpent (within : Within base asks depth settings) (spent : List Nat) :
    Within base asks depth { settings with spent := spent } :=
  ⟨within.later, within.schema, within.parked, within.here, within.outer⟩

theorem Within.fill (within : Within base asks depth settings) (numbered : base.Numbered)
    {serial : Nat} (later : base.nextSerial ≤ serial) (sections : Sections) :
    Within base asks depth (settings.fill serial sections) := by
  refine { within with here := within.here.fill serial sections, outer := ?_ }
  obtain ⟨inner, length, outer, since⟩ := within.outer
  refine ⟨inner.map fun outer => { outer with runtime := outer.runtime.fill serial sections },
    ?_, ?_, ?_⟩
  · rw [List.length_map, length]
  · simp only [Settings.fill, outer, List.map_append, numbered.aside_fill asks later sections]
  · intro frame member
    obtain ⟨former, known, rfl⟩ := List.mem_map.mp member
    exact (since former known).fill serial sections

/-- Within an override a schema's folder is one that was made there. -/
theorem Within.ensureFolder (within : Within base asks depth before) {schema : Value}
    {serial : Nat} (ensured : before.ensureFolder schema = .ok (serial, after)) :
    base.nextSerial ≤ serial ∧ Within base asks depth after := by
  rcases ensureFolder_cases ensured with ⟨rfl, folder, found, rfl⟩ | ⟨-, rfl, rfl⟩
  · -- The override started with no folders, so one that is found was made in it.
    obtain ⟨present, member⟩ := ValueTable.mem_of_lookup found
    exact ⟨within.here.runtime _ member, within⟩
  · refine ⟨within.later, { within with later := ?_, here := ?_ }⟩
    · exact Nat.le_succ_of_le within.later
    · exact ⟨within.here.runtime.put within.later schema, within.here.levels⟩

theorem Within.configure (within : Within base asks depth before) (numbered : base.Numbered)
    {schema : Value} {sections : Sections}
    (written : before.configure schema sections = .ok after) : Within base asks depth after := by
  obtain ⟨serial, opened, ensured, rfl⟩ := configure_eq written
  obtain ⟨later, still⟩ := within.ensureFolder ensured
  exact (still.fill numbered later sections).clear

theorem Within.amendTop (within : Within base asks depth settings) (numbered : base.Numbered)
    {change : HostLevel → HostLevel} (same : ∀ level, (change level).serial = level.serial) :
    Within base asks depth (settings.amendTop change) := by
  obtain ⟨top, own, levels, serials⟩ := within.here.levels
  have later : base.nextSerial ≤ top.serial := serials top List.mem_cons_self
  obtain ⟨inner, length, outer, since⟩ := within.outer
  -- The top level was laid on later, so the change goes no further out than the inner overrides.
  have amended : settings.amendTop change =
      { settings with
        levels := amend top.serial change settings.levels
        outer := inner.map (fun outer =>
          { outer with levels := amend top.serial change outer.levels }) ++ base.aside asks
        parked := settings.parked } := by
    have parked := numbered.parked_amend later change
    rw [← within.parked] at parked
    rw [Settings.amendTop]
    simp only [levels, List.cons_append, outer, List.map_append,
      numbered.aside_amend asks later change, parked]
  rw [amended]
  refine { within with here := within.here.amend numbered later same, outer := ?_ }
  refine ⟨_, ?_, rfl, ?_⟩
  · rw [List.length_map, length]
  · intro frame member
    obtain ⟨former, known, rfl⟩ := List.mem_map.mp member
    exact (since former known).amend numbered later same

theorem Within.assign (within : Within base asks depth settings) (numbered : base.Numbered)
    (setting : HostSetting) (value : Value) :
    Within base asks depth (settings.assign setting value) := by
  rw [Settings.assign, ensureHost_of_levels within.levels_ne_nil, renew_eq]
  exact (within.amendTop numbered fun level => level.serial_put setting _).withSpent _

theorem Within.remove (within : Within base asks depth settings) (numbered : base.Numbered)
    (setting : HostSetting) : Within base asks depth (settings.remove setting).2 := by
  simp only [Settings.remove, ensureHost_of_levels within.levels_ne_nil]
  split
  · exact within
  · exact within.amendTop numbered fun level => level.serial_put setting _

theorem Within.announce (within : Within base asks depth settings)
    (setting : Option HostSetting) : Within base asks depth (settings.announce setting) := by
  cases setting with
  | none => exact within
  | some changed =>
    rw [Settings.announce]
    split
    · exact within.clear
    · exact within

theorem MadeSince.addLevel {runtime : Runtime} {levels : List HostLevel}
    (since : base.MadeSince runtime levels) {level : HostLevel}
    (later : base.nextSerial ≤ level.serial) : base.MadeSince runtime (level :: levels) := by
  obtain ⟨top, own, rfl, serials⟩ := since.levels
  exact ⟨since.runtime, level, top :: own, rfl, List.forall_mem_cons.mpr ⟨later, serials⟩⟩

theorem Within.enter (within : Within base asks depth settings)
    (shared bySchema : Option Value) :
    Within base asks (depth + 1) (settings.enter shared bySchema) where
  later := Nat.le_succ_of_le within.later
  schema := within.schema
  parked := within.parked
  here := ⟨List.forall_mem_nil _, (within.here.addLevel within.later).levels⟩
  outer := by
    obtain ⟨inner, length, outer, since⟩ := within.outer
    refine ⟨⟨settings.runtime, settings.levels, shared.isSome || bySchema.isSome⟩ :: inner,
      ?_, ?_, ?_⟩
    · rw [List.length_cons, length]
    · exact congrArg _ outer
    · exact List.forall_mem_cons.mpr ⟨within.here, since⟩

/-- An inner override is closed and gives back what was made within the first one. -/
theorem Within.leave (within : Within base asks (depth + 1) settings) :
    Within base asks depth settings.leave := by
  obtain ⟨inner, length, outer, since⟩ := within.outer
  obtain ⟨frame, inner, rfl⟩ := List.exists_cons_of_length_eq_add_one length
  obtain ⟨top, own, levels, -⟩ := (since frame List.mem_cons_self).levels
  -- The levels that come back are some, so no host is set up anew.
  have here : frame.levels ≠ [] := by
    rw [levels]
    exact List.cons_ne_nil _ _
  rw [leave_of_outer outer here]
  refine ⟨within.later, within.schema, within.parked, since frame List.mem_cons_self, ?_⟩
  exact ⟨inner, Nat.succ.inj length, rfl, fun other member =>
    since other (List.mem_cons_of_mem frame member)⟩

end

end CustomScalars.Settings
