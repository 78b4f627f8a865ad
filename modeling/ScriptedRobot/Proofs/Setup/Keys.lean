import ScriptedRobot.Proofs.Setup.Fields

/-! # The keys of the setup

There are ten keys in three sections. Each of them is a text or a whole number between bounds, and
together they are the whole setup. So settings give a setup exactly if every section is one, and
every key that is set is set to a constant that it admits (`ofSettings_eq_ok_iff`). -/

namespace ScriptedRobot.Setup

/-- The sections of the setup. -/
inductive Part where
  | scripts
  | control
  | programs
  deriving DecidableEq, Repr

/-- The keys of the setup. -/
inductive Key where
  | searchPath
  | deployDirectory
  | operatingDirectory
  | launchDirectory
  | marker
  | period
  | ticks
  | teleop
  | autonomous
  | selfTest
  deriving DecidableEq, Repr

/-- What a key can be set to. -/
inductive Kind where
  | text
  | whole (least greatest : Int)

/-- The constants of a kind. -/
def Kind.Admits : Kind → Constant → Prop
  | .text, .text _ => True
  | .whole least greatest, .whole value => least ≤ value ∧ value ≤ greatest
  | _, _ => False

namespace Part

def name : Part → String
  | .scripts => "scripts"
  | .control => "control"
  | .programs => "programs"

/-- The keys of a section in their order. -/
def keys : Part → List Key
  | .scripts => [.searchPath, .deployDirectory, .operatingDirectory, .launchDirectory, .marker]
  | .control => [.period, .ticks]
  | .programs => [.teleop, .autonomous, .selfTest]

/-- A setup of which only one section is kept. -/
def of (setup : HostSetup) : Part → HostSetup
  | .scripts => { scripts := setup.scripts }
  | .control => { control := setup.control }
  | .programs => { programs := setup.programs }

end Part

namespace Key

/-- The section of a key. -/
def part : Key → Part
  | .searchPath | .deployDirectory | .operatingDirectory | .launchDirectory | .marker => .scripts
  | .period | .ticks => .control
  | .teleop | .autonomous | .selfTest => .programs

def name : Key → String
  | .searchPath => "search_path"
  | .deployDirectory => "deploy_dir"
  | .operatingDirectory => "operating_dir"
  | .launchDirectory => "launch_dir"
  | .marker => "marker"
  | .period => "period_ms"
  | .ticks => "ticks"
  | .teleop => "teleop"
  | .autonomous => "autonomous"
  | .selfTest => "test"

def kind : Key → Kind
  | .period => .whole Number.int32Least Number.int32Greatest
  | .ticks => .whole 0 (Number.longWordCount - 1)
  | _ => .text

/-- What a setup has for a key, if anything. -/
def value? (setup : HostSetup) : Key → Option Constant
  | .searchPath => setup.scripts.searchPath.map .text
  | .deployDirectory => some (.text setup.scripts.deployDirectory)
  | .operatingDirectory => setup.scripts.operatingDirectory.map .text
  | .launchDirectory => setup.scripts.launchDirectory.map .text
  | .marker => some (.text setup.scripts.marker)
  | .period => setup.control.period.map fun milliseconds => .whole milliseconds.toInt
  | .ticks => some (.whole setup.control.ticks)
  | .teleop => some (.text setup.programs.teleop)
  | .autonomous => some (.text setup.programs.autonomous)
  | .selfTest => some (.text setup.programs.selfTest)

/-- A setting gives a key a constant that it admits. -/
def Fits (key : Key) (setting : Setting) (value? : Option Constant) : Prop :=
  ∃ constant, setting.constant? = some constant ∧ key.kind.Admits constant ∧
    value? = some constant

/-- A setup has for a key what its setting says, and without one the default. -/
def Told (key : Key) (setting? : Option Setting) (setup : HostSetup) : Prop :=
  match setting? with
  | some setting => key.Fits setting (key.value? setup)
  | none => key.value? setup = key.value? {}

end Key

/-! ## Sections -/

/-- The names of the keys of a section. -/
def Part.names (part : Part) : List String :=
  part.keys.map Key.name

/-- The layout of a section's record, which is seen as the part of a setup. -/
def Part.layout {ρ : Type} (part : Part) (embed : ρ → HostSetup) :
    Layout ρ Key (Option Constant) where
  keys := part.keys
  name := Key.name
  Fits := Key.Fits
  value key record := key.value? (embed record)

/-- A reader reads the constants of a kind. -/
structure Fitting.Reads {α : Type} (fit : Fitting α) (kind : Kind) (constant : α → Constant) :
    Prop where
  sound {setting : Setting} {value : α} : fit setting = .ok value →
    setting.constant? = some (constant value) ∧ kind.Admits (constant value)
  complete {setting : Setting} {given : Constant} : setting.constant? = some given →
    kind.Admits given → ∃ value, fit setting = .ok value ∧ constant value = given

theorem reads_fitText (expected : Expectation) : (fitText expected).Reads .text .text where
  sound {setting value} done := by
    cases setting with
    | text _ =>
        cases done
        exact ⟨rfl, trivial⟩
    | _ => cases done
  complete {setting given} isConstant admitted := by
    cases setting with
    | text value => exact ⟨value, rfl, Option.some.inj isConstant⟩
    | unsigned _ | signed _ =>
        cases isConstant
        cases admitted
    | _ => cases isConstant

theorem fitWhole_eq_ok_iff {expected : Expectation} {least greatest value : Int}
    {setting : Setting} : fitWhole expected least greatest setting = .ok value ↔
      setting.constant? = some (.whole value) ∧ least ≤ value ∧ value ≤ greatest := by
  have bounded (given : Int) :
      (if least ≤ given ∧ given ≤ greatest then Except.ok given
        else .error { outOfRange := true, found := setting, expected } : Except Misfit Int) =
          .ok value ↔
      some (Constant.whole given) = some (.whole value) ∧ least ≤ value ∧ value ≤ greatest := by
    constructor
    · intro done
      split at done
      case isTrue within =>
        cases done
        exact ⟨rfl, within⟩
      case isFalse => cases done
    · rintro ⟨same, within⟩
      cases same
      exact if_pos within
  cases setting with
  | unsigned given => exact bounded given
  | signed given => exact bounded given
  | _ => exact ⟨nofun, nofun⟩

/-- Whole numbers between bounds that are kept in another type. -/
theorem reads_map_fitWhole {α : Type} {expected : Expectation} {least greatest : Int}
    {make : Int → α} {number : α → Int}
    (kept : ∀ value, least ≤ value → value ≤ greatest → number (make value) = value) :
    Fitting.Reads (fun setting => (fitWhole expected least greatest setting).map make)
      (.whole least greatest) (.whole <| number ·) where
  sound {setting value} done := by
    cases isWhole : fitWhole expected least greatest setting with
    | error _ =>
        rw [isWhole] at done
        cases done
    | ok given =>
        rw [isWhole] at done
        cases done
        obtain ⟨isConstant, within⟩ := fitWhole_eq_ok_iff.mp isWhole
        rw [kept given within.1 within.2]
        exact ⟨isConstant, within⟩
  complete {setting given} isConstant admitted := by
    cases given with
    | text _ => cases admitted
    | whole given =>
        refine ⟨make given, ?_, congrArg _ (kept given admitted.1 admitted.2)⟩
        rw [fitWhole_eq_ok_iff.mpr ⟨isConstant, admitted⟩]
        rfl

theorem reads_fitMilliseconds :
    fitMilliseconds.Reads (.whole Number.int32Least Number.int32Greatest) (.whole ·.toInt) :=
  reads_map_fitWhole fun _ above below => Int32.toInt_ofInt_of_le above (by
    unfold Number.int32Greatest at below
    omega)

theorem reads_fitTicks :
    fitTicks.Reads (.whole 0 (Number.longWordCount - 1)) fun ticks => .whole ticks :=
  reads_map_fitWhole fun _ above _ => Int.toNat_of_nonneg above

/-- A field of a section. -/
theorem holds_field {ρ α : Type} {part : Part} {embed : ρ → HostSetup} (key : Key)
    {fit : Fitting α} {constant : α → Constant} (reads : fit.Reads key.kind constant)
    {put : ρ → α → ρ} (updates : ∀ record read other, other.value? (embed (put record read)) =
      if other = key then some (constant read) else other.value? (embed record)) :
    (part.layout embed).Holds key
      ⟨key.name, fun record setting => do return put record (← fit setting)⟩ := by
  have readsKey : (part.layout embed).Reads key fit (some ∘ constant) := by
    refine ⟨?_, ?_⟩
    · intro setting read isRead
      obtain ⟨isConstant, admitted⟩ := reads.sound isRead
      exact ⟨_, isConstant, admitted, rfl⟩
    · rintro setting value ⟨given, isConstant, admitted, rfl⟩
      obtain ⟨read, isRead, rfl⟩ := reads.complete isConstant admitted
      exact ⟨read, isRead, rfl⟩
  exact readsKey.holds updates

theorem text_injective : Constant.text.Injective :=
  fun _ _ => Constant.text.inj

theorem milliseconds_injective :
    Function.Injective fun milliseconds : Int32 => Constant.whole milliseconds.toInt :=
  fun _ _ equal => Int32.toInt_inj.mp (Constant.whole.inj equal)

theorem describes_scripts :
    (Part.layout .scripts fun scripts => { scripts }).Describes scriptFields where
  holds :=
    .cons (holds_field .searchPath (reads_fitText .path)
      fun _ _ other => by cases other <;> rfl) <|
    .cons (holds_field .deployDirectory (reads_fitText .path)
      fun _ _ other => by cases other <;> rfl) <|
    .cons (holds_field .operatingDirectory (reads_fitText .path)
      fun _ _ other => by cases other <;> rfl) <|
    .cons (holds_field .launchDirectory (reads_fitText .path)
      fun _ _ other => by cases other <;> rfl) <|
    .cons (holds_field .marker (reads_fitText .text)
      fun _ _ other => by cases other <;> rfl) .nil
  distinct := by decide
  ext {first second} same := by
    have searchPath := same .searchPath (by decide)
    have deployDirectory := same .deployDirectory (by decide)
    have operatingDirectory := same .operatingDirectory (by decide)
    have launchDirectory := same .launchDirectory (by decide)
    have marker := same .marker (by decide)
    obtain ⟨⟩ := first
    obtain ⟨⟩ := second
    rw [ScriptSetup.mk.injEq]
    exact ⟨Option.map_injective text_injective searchPath,
      text_injective (Option.some.inj deployDirectory),
      Option.map_injective text_injective operatingDirectory,
      Option.map_injective text_injective launchDirectory,
      text_injective (Option.some.inj marker)⟩

theorem describes_control :
    (Part.layout .control fun control => { control }).Describes controlFields where
  holds :=
    .cons (holds_field .period reads_fitMilliseconds
      fun _ _ other => by cases other <;> rfl) <|
    .cons (holds_field .ticks reads_fitTicks
      fun _ _ other => by cases other <;> rfl) .nil
  distinct := by decide
  ext {first second} same := by
    have period := same .period (by decide)
    have ticks := same .ticks (by decide)
    obtain ⟨⟩ := first
    obtain ⟨⟩ := second
    rw [ControlSetup.mk.injEq]
    exact ⟨Option.map_injective milliseconds_injective period,
      Int.ofNat.inj (Constant.whole.inj (Option.some.inj ticks))⟩

theorem describes_programs :
    (Part.layout .programs fun programs => { programs }).Describes programFields where
  holds :=
    .cons (holds_field .teleop (reads_fitText .text)
      fun _ _ other => by cases other <;> rfl) <|
    .cons (holds_field .autonomous (reads_fitText .text)
      fun _ _ other => by cases other <;> rfl) <|
    .cons (holds_field .selfTest (reads_fitText .text)
      fun _ _ other => by cases other <;> rfl) .nil
  distinct := by decide
  ext {first second} same := by
    have teleop := same .teleop (by decide)
    have autonomous := same .autonomous (by decide)
    have selfTest := same .selfTest (by decide)
    obtain ⟨⟩ := first
    obtain ⟨⟩ := second
    rw [ProgramSetup.mk.injEq]
    exact ⟨text_injective (Option.some.inj teleop), text_injective (Option.some.inj autonomous),
      text_injective (Option.some.inj selfTest)⟩

/-! ## The setup -/

/-- What a section makes of a setup. -/
def Part.Fits : Part → Setting → HostSetup → Prop
  | .scripts, setting, setup =>
    ∃ scripts, fitRecord .scripts scriptFields {} setting = .ok scripts ∧ { scripts } = setup
  | .control, setting, setup =>
    ∃ control, fitRecord .control controlFields {} setting = .ok control ∧ { control } = setup
  | .programs, setting, setup =>
    ∃ programs, fitRecord .programs programFields {} setting = .ok programs ∧ { programs } = setup

/-- The layout of the setup, section by section. -/
def sectionLayout : Layout HostSetup Part HostSetup where
  keys := [.scripts, .control, .programs]
  name := Part.name
  Fits := Part.Fits
  value part setup := part.of setup

theorem reads_scripts :
    sectionLayout.Reads .scripts (fitRecord .scripts scriptFields {}) fun scripts => { scripts } :=
  ⟨fun done => ⟨_, done, rfl⟩, id⟩

theorem reads_control :
    sectionLayout.Reads .control (fitRecord .control controlFields {}) fun control => { control } :=
  ⟨fun done => ⟨_, done, rfl⟩, id⟩

theorem reads_programs : sectionLayout.Reads .programs (fitRecord .programs programFields {})
    fun programs => { programs } :=
  ⟨fun done => ⟨_, done, rfl⟩, id⟩

theorem describes_sections : sectionLayout.Describes sections where
  holds :=
    .cons (reads_scripts.holds fun _ _ other => by cases other <;> rfl) <|
    .cons (reads_control.holds fun _ _ other => by cases other <;> rfl) <|
    .cons (reads_programs.holds fun _ _ other => by cases other <;> rfl) .nil
  distinct := by decide
  ext {first second} same := by
    have scripts := congrArg HostSetup.scripts (same .scripts (by decide))
    have control := congrArg HostSetup.control (same .control (by decide))
    have programs := congrArg HostSetup.programs (same .programs (by decide))
    obtain ⟨⟩ := first
    obtain ⟨⟩ := second
    rw [HostSetup.mk.injEq]
    exact ⟨scripts, control, programs⟩

section Record

variable {ρ : Type} {part : Part} {embed : ρ → HostSetup} {fields : List (Field ρ)}
  (described : (part.layout embed).Describes fields)
include described

theorem embed_eq_iff {first second : ρ} : embed first = embed second ↔
    ∀ key ∈ part.keys, key.value? (embed first) = key.value? (embed second) :=
  ⟨fun same key _ => congrArg key.value? same, fun told => congrArg embed (described.ext told)⟩

theorem exists_fitRecord_iff {expected : Expectation} {default record : ρ} {form : Setting}
    (ordered : form.IsOrdered) :
    (∃ read, fitRecord expected fields default form = .ok read ∧ embed read = embed record) ↔
      form.isSection = true ∧ ∀ key ∈ part.keys,
        (part.layout embed).Told key (form.at? part.names key.name) default record := by
  refine Iff.trans ?_ (fitRecord_eq_ok_iff described expected ordered)
  constructor
  · rintro ⟨read, isRead, same⟩
    obtain rfl : read = record := described.ext fun key _ => congrArg key.value? same
    exact isRead
  · exact fun isRead => ⟨record, isRead, rfl⟩

end Record

variable {setup : HostSetup}

/-- A section that is not given has the defaults. -/
theorem Part.of_eq_iff (part : Part) : part.of setup = part.of {} ↔
    ∀ key ∈ part.keys, key.Told none (part.of setup) := by
  cases part with
  | scripts => exact embed_eq_iff describes_scripts
  | control => exact embed_eq_iff describes_control
  | programs => exact embed_eq_iff describes_programs

theorem Part.fits_iff (part : Part) {form : Setting} (ordered : form.IsOrdered) :
    part.Fits form (part.of setup) ↔
      form.isSection = true ∧ ∀ key ∈ part.keys,
        key.Told (form.at? part.names key.name) (part.of setup) := by
  cases part with
  | scripts => exact exists_fitRecord_iff describes_scripts ordered
  | control => exact exists_fitRecord_iff describes_control ordered
  | programs => exact exists_fitRecord_iff describes_programs ordered

theorem Key.value?_of (key : Key) : key.value? (key.part.of setup) = key.value? setup := by
  cases key <;> rfl

theorem Key.told_of (key : Key) (setting? : Option Setting) :
    key.Told setting? (key.part.of setup) ↔ key.Told setting? setup := by
  unfold Told
  rw [value?_of]

theorem Part.mem_keys_iff {part : Part} {key : Key} : key ∈ part.keys ↔ key.part = part := by
  cases part <;> cases key <;> decide

theorem Part.forall_keys_iff {told : Part → Key → Prop} :
    (∀ part : Part, ∀ key ∈ part.keys, told part key) ↔ ∀ key : Key, told key.part key := by
  constructor
  · exact fun all key => all key.part key (mem_keys_iff.mpr rfl)
  · intro all part key member
    exact mem_keys_iff.mp member ▸ all key

/-- Settings give a setup exactly if every section is a table or a list, and every key that is set
is set to a constant that it admits. -/
theorem ofSettings_eq_ok_iff {settings : Settings} (ordered : Ordered settings) :
    HostSetup.ofSettings settings = .ok setup ↔
      (∀ part : Part, ∀ form ∈ settings.lookup part.name,
        form.isSection = true) ∧
      ∀ key : Key, key.Told
        ((settings.lookup key.part.name).bind (·.at? key.part.names key.name)) setup := by
  have told (part : Part) : sectionLayout.Told part (settings.lookup part.name) {} setup ↔
      (∀ form ∈ settings.lookup part.name, form.isSection = true) ∧
      ∀ key ∈ part.keys, key.Told
        ((settings.lookup part.name).bind (·.at? part.names key.name)) (part.of setup) := by
    cases found : settings.lookup part.name with
    | none => exact part.of_eq_iff.trans (and_iff_right nofun).symm
    | some form =>
        refine (part.fits_iff (ordered.of_lookup found)).trans (and_congr_left' ?_)
        exact ⟨fun isSection _ same => Option.some.inj same ▸ isSection, fun all => all form rfl⟩
  refine (storeEntries_eq_ok_iff describes_sections ordered.sections.nodup).trans ?_
  have everyPart {told : Part → Prop} :
      (∀ part ∈ sectionLayout.keys, told part) ↔ ∀ part, told part :=
    ⟨fun all part => all part (by cases part <;> decide), fun all part _ => all part⟩
  refine everyPart.trans ((forall_congr' told).trans (forall_and.trans (and_congr_right' ?_)))
  exact Part.forall_keys_iff.trans (forall_congr' fun key => key.told_of _)

end ScriptedRobot.Setup
