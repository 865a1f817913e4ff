import CustomScalars.Proofs.Settings.Freshness

/-!
# Numbers of folders and levels

A folder or level is changed wherever its number is, also in what has been laid aside. So what has
been laid aside is safe from a change to a number that it does not have. Numbers are given out in
order: everything there is has a number below the next one, and every settings operation keeps it
so. What is made later therefore differs in number from all that was there before.
-/
namespace CustomScalars.Settings

/-- All folders have numbers of a kind. -/
def Runtime.Serials (kind : Nat → Prop) (runtime : Runtime) : Prop :=
  ∀ entry ∈ runtime, kind entry.2.serial

/-- All levels have numbers of a kind. -/
def HostLevel.Serials (kind : Nat → Prop) (levels : List HostLevel) : Prop :=
  ∀ level ∈ levels, kind level.serial

section
variable {kind other : Nat → Prop} {runtime : Runtime} {levels : List HostLevel}

theorem Runtime.Serials.imp (serials : runtime.Serials kind) (weaker : ∀ n, kind n → other n) :
    runtime.Serials other :=
  fun entry member => weaker _ (serials entry member)

theorem HostLevel.Serials.imp (serials : HostLevel.Serials kind levels)
    (weaker : ∀ n, kind n → other n) : HostLevel.Serials other levels :=
  fun level member => weaker _ (serials level member)

theorem Runtime.Serials.put (serials : runtime.Serials kind) {folder : Folder}
    (fits : kind folder.serial) (schema : Value) :
    Runtime.Serials kind (runtime.put schema folder) := by
  intro entry member
  rcases ValueTable.mem_put member with new | old
  · exact new ▸ fits
  · exact serials entry old

theorem Runtime.Serials.fill (serials : runtime.Serials kind) (serial : Nat)
    (sections : Sections) : (runtime.fill serial sections).Serials kind := by
  intro entry member
  obtain ⟨former, known, rfl⟩ := List.mem_map.mp member
  -- Adding sections leaves a folder its number.
  have same : (if former.2.serial = serial then former.2.add sections else former.2).serial =
      former.2.serial := by
    split <;> rfl
  simpa only [same] using serials former known

theorem Runtime.fill_of_absent {serial : Nat} (absent : runtime.Serials (· ≠ serial))
    (sections : Sections) : runtime.fill serial sections = runtime := by
  have untouched : ∀ entry ∈ runtime,
      (entry.1, if entry.2.serial = serial then entry.2.add sections else entry.2) = entry := by
    intro entry member
    rw [if_neg (absent entry member)]
  exact (List.map_congr_left untouched).trans (List.map_id' runtime)

theorem HostLevel.serial_put (level : HostLevel) (setting : HostSetting) (change : Change) :
    (level.put setting change).serial = level.serial := by
  cases setting <;> rfl

theorem HostLevel.Serials.amend (serials : HostLevel.Serials kind levels) (serial : Nat)
    {change : HostLevel → HostLevel} (same : ∀ level, (change level).serial = level.serial) :
    HostLevel.Serials kind (amend serial change levels) := by
  intro level member
  obtain ⟨former, known, rfl⟩ := List.mem_map.mp member
  split
  · rw [same]
    exact serials former known
  · exact serials former known

theorem amend_of_absent {serial : Nat} (absent : HostLevel.Serials (· ≠ serial) levels)
    (change : HostLevel → HostLevel) : amend serial change levels = levels := by
  have untouched : ∀ level ∈ levels,
      (if level.serial = serial then change level else level) = level := by
    intro level member
    rw [if_neg (absent level member)]
  exact (List.map_congr_left untouched).trans (List.map_id' levels)

end

/-- What an override has laid aside has numbers of a kind. -/
structure AsideSerials (kind : Nat → Prop) (outer : Outer) : Prop where
  runtime : outer.runtime.Serials kind
  levels : HostLevel.Serials kind outer.levels

/-- Everything there is has a number below the next one. -/
structure Numbered (settings : Settings) : Prop where
  runtime : settings.runtime.Serials (· < settings.nextSerial)
  levels : HostLevel.Serials (· < settings.nextSerial) settings.levels
  outer : ∀ outer ∈ settings.outer, AsideSerials (· < settings.nextSerial) outer
  parked : ∀ levels, settings.parked = some levels →
    HostLevel.Serials (· < settings.nextSerial) levels

variable {settings before after : Settings}

theorem numbered_initial : Settings.initial.Numbered where
  runtime := List.forall_mem_nil _
  levels := by
    intro level member
    rw [List.mem_singleton.mp member]
    exact Nat.one_pos
  outer := List.forall_mem_nil _
  parked := fun _ parked => nomatch parked

/-- The reader is no part of what is numbered. -/
theorem Numbered.withReader (numbered : settings.Numbered) (reader : Reader) :
    Numbered { settings with reader := reader } :=
  ⟨numbered.runtime, numbered.levels, numbered.outer, numbered.parked⟩

theorem Numbered.withSpent (numbered : settings.Numbered) (spent : List Nat) :
    Numbered { settings with spent := spent } :=
  ⟨numbered.runtime, numbered.levels, numbered.outer, numbered.parked⟩

theorem Numbered.useUp (numbered : settings.Numbered) : settings.useUp.Numbered := by
  rw [useUp_eq]
  exact numbered.withSpent _

/-- Once a number is given out the next one is higher. -/
theorem Numbered.advance (numbered : settings.Numbered) :
    Numbered { settings with nextSerial := settings.nextSerial + 1 } where
  runtime := numbered.runtime.imp fun _ => Nat.lt_succ_of_lt
  levels := numbered.levels.imp fun _ => Nat.lt_succ_of_lt
  outer := fun outer member =>
    ⟨(numbered.outer outer member).runtime.imp fun _ => Nat.lt_succ_of_lt,
      (numbered.outer outer member).levels.imp fun _ => Nat.lt_succ_of_lt⟩
  parked := fun levels parked => (numbered.parked levels parked).imp fun _ => Nat.lt_succ_of_lt

theorem Numbered.readTo (numbered : before.Numbered) (read : before.ReadTo after) :
    after.Numbered := by
  rw [read.frame]
  exact numbered.withReader _

/-- A level that is made takes the next number. -/
theorem Numbered.addTop (numbered : settings.Numbered) {level : HostLevel}
    (named : level.serial = settings.nextSerial) :
    Numbered { settings with
      levels := level :: settings.levels
      nextSerial := settings.nextSerial + 1 } := by
  refine { numbered.advance with levels := ?_ }
  intro present member
  rcases List.mem_cons.mp member with rfl | below
  · exact named ▸ Nat.lt_succ_self _
  · exact numbered.advance.levels present below

theorem Numbered.ensureHost (numbered : settings.Numbered) : settings.ensureHost.Numbered := by
  unfold Settings.ensureHost
  split
  next none =>
    have named : (HostLevel.standard settings.nextSerial).serial = settings.nextSerial := rfl
    have present := numbered.addTop named
    rwa [none] at present
  · exact numbered

theorem Numbered.addLevel (numbered : settings.Numbered) (shared bySchema debug : Option Value) :
    (settings.addLevel shared bySchema debug).Numbered :=
  numbered.addTop rfl

theorem Numbered.enter (numbered : settings.Numbered) (shared bySchema : Option Value) :
    (settings.enter shared bySchema).Numbered where
  runtime := List.forall_mem_nil _
  levels := (numbered.addLevel shared bySchema none).levels
  outer := by
    intro outer member
    -- What the new override lays aside is what was in use.
    rcases List.mem_cons.mp member with rfl | further
    · exact ⟨numbered.advance.runtime, numbered.advance.levels⟩
    · exact numbered.advance.outer outer further
  parked := numbered.advance.parked

theorem Numbered.leave (numbered : settings.Numbered) : settings.leave.Numbered := by
  cases opened : settings.outer with
  | nil =>
    rw [Settings.leave, opened]
    exact numbered
  | cons first rest =>
    -- What comes back was numbered while it was laid aside.
    have aside := numbered.outer first (opened ▸ List.mem_cons_self)
    have further : ∀ outer ∈ rest, AsideSerials (· < settings.nextSerial) outer :=
      fun outer member => numbered.outer outer (opened.symm ▸ List.mem_cons_of_mem first member)
    have restored : Numbered (Settings.clear { settings with
        runtime := first.runtime, levels := first.levels, outer := rest }) :=
      ⟨aside.runtime, aside.levels, further, numbered.parked⟩
    simp only [Settings.leave, opened]
    split
    · exact restored.ensureHost
    · exact restored

theorem Numbered.amendTop (numbered : settings.Numbered) {change : HostLevel → HostLevel}
    (same : ∀ level, (change level).serial = level.serial) :
    (settings.amendTop change).Numbered := by
  unfold Settings.amendTop
  split
  · exact numbered
  next top below levels =>
    -- A change keeps the number of a level, wherever the level is.
    refine ⟨numbered.runtime, numbered.levels.amend top.serial same, ?_, ?_⟩
    · intro outer member
      obtain ⟨former, known, rfl⟩ := List.mem_map.mp member
      exact ⟨(numbered.outer former known).runtime,
        (numbered.outer former known).levels.amend top.serial same⟩
    · intro parked there
      obtain ⟨former, known, rfl⟩ := Option.map_eq_some_iff.mp there
      exact (numbered.parked former known).amend top.serial same

theorem Numbered.assign (numbered : settings.Numbered) (setting : HostSetting) (value : Value) :
    (settings.assign setting value).Numbered := by
  rw [Settings.assign, renew_eq]
  exact (numbered.ensureHost.amendTop fun level => level.serial_put setting _).withSpent _

theorem Numbered.remove (numbered : settings.Numbered) (setting : HostSetting) :
    (settings.remove setting).2.Numbered := by
  simp only [Settings.remove]
  split
  · exact numbered.ensureHost
  · exact numbered.ensureHost.amendTop fun level => level.serial_put setting _

theorem Numbered.announce (numbered : settings.Numbered) (setting : Option HostSetting) :
    (settings.announce setting).Numbered := by
  cases setting with
  | none => exact numbered
  | some changed =>
    rw [Settings.announce]
    split
    · exact numbered.withReader _
    · exact numbered

theorem Numbered.unconfigure (numbered : settings.Numbered) : settings.unconfigure.Numbered := by
  cases levels : settings.levels with
  | nil =>
    rw [Settings.unconfigure, levels]
    exact numbered
  | cons top below =>
    have taken : settings.unconfigure =
        { settings with levels := [], parked := some (top :: below) } := by
      rw [Settings.unconfigure, levels]
    rw [taken]
    refine { numbered with levels := List.forall_mem_nil _, parked := ?_ }
    rintro parked ⟨⟩
    exact levels ▸ numbered.levels

theorem Numbered.reconfigure (numbered : settings.Numbered) : settings.reconfigure.Numbered := by
  cases parked : settings.parked with
  | none =>
    rw [Settings.reconfigure, parked]
    exact numbered
  | some levels =>
    have brought : settings.reconfigure = { settings with levels := levels, parked := none } := by
      rw [Settings.reconfigure, parked]
    rw [brought]
    exact { numbered with
      levels := numbered.parked levels parked
      parked := fun _ there => nomatch there }

theorem Numbered.ensureFolder (numbered : before.Numbered) {schema : Value} {serial : Nat}
    (ensured : before.ensureFolder schema = .ok (serial, after)) : after.Numbered := by
  rcases ensureFolder_cases ensured with ⟨rfl, -⟩ | ⟨-, -, rfl⟩
  · exact numbered
  · exact { numbered.advance with
      runtime := numbered.advance.runtime.put (Nat.lt_succ_self _) schema }

theorem Numbered.fill (numbered : settings.Numbered) (serial : Nat) (sections : Sections) :
    (settings.fill serial sections).Numbered := by
  refine { numbered with runtime := numbered.runtime.fill serial sections, outer := ?_ }
  intro outer member
  obtain ⟨former, known, rfl⟩ := List.mem_map.mp member
  exact ⟨(numbered.outer former known).runtime.fill serial sections,
    (numbered.outer former known).levels⟩

theorem Numbered.configure (numbered : before.Numbered) {schema : Value} {sections : Sections}
    (written : before.configure schema sections = .ok after) : after.Numbered := by
  obtain ⟨serial, opened, ensured, rfl⟩ := configure_eq written
  exact ((numbered.ensureFolder ensured).fill serial sections).withReader _

end CustomScalars.Settings
