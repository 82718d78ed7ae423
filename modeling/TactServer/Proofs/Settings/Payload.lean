import TactServer.Proofs.Settings.Layers
import TactServer.Settings.Record

/-!
# Settings from the editor

An editor names the keys that it wants changed, in an object or in an array. What it asks for is
read here off the JSON itself: a key counts if it is there once, under any of its names, and is not
null. Either all keys that are named take effect or none does, and no other setting ever changes.
-/

set_option autoImplicit false

namespace TactServer

/-! ## Records whose fields may all be left out -/

namespace Field

variable {ε : Type} {fields : List (Field ε)} {members : List (String × Json)}
  {seen : List String} {values : List (Option Json)}

def valuesUnder (names : List String) (members : List (String × Json)) : List Json :=
  (members.filter fun member => names.contains member.1).map Prod.snd

structure Apart (fields : List (Field ε)) : Prop where
  named : ∀ field ∈ fields, field.names.contains field.name = true
  unique : ∀ field ∈ fields, ∀ other ∈ fields, ∀ key, field.names.contains key = true →
    other.names.contains key = true → field = other

def Clean (fields : List (Field ε)) (seen : List String) (members : List (String × Json)) : Prop :=
  ∀ field ∈ fields,
    (valuesUnder field.names members).length ≤ (if seen.contains field.name then 0 else 1) ∧
      ∀ value ∈ valuesUnder field.names members, field.fault value = none

theorem values_under_cons (names : List String) (key : String) (value : Json)
    (members : List (String × Json)) :
    valuesUnder names ((key, value) :: members) =
      if names.contains key then value :: valuesUnder names members
      else valuesUnder names members := by
  simp only [valuesUnder, List.filter_cons]
  split
  · rfl
  · rfl

theorem clean_cons_of_foreign {key : String} (value : Json)
    (foreign : ∀ field ∈ fields, ¬field.names.contains key = true) :
    Clean fields seen ((key, value) :: members) ↔ Clean fields seen members := by
  apply forall₂_congr
  intro field member
  rw [values_under_cons, if_neg (foreign field member)]

theorem clean_cons_of_owned {key : String} {value : Json} {owner : Field ε} (apart : Apart fields)
    (member : owner ∈ fields) (owned : owner.names.contains key = true)
    (unseen : seen.contains owner.name = false) (readable : owner.fault value = none) :
    Clean fields seen ((key, value) :: members) ↔ Clean fields (owner.name :: seen) members := by
  apply forall₂_congr
  intro field fieldMember
  by_cases same : field = owner
  · subst same
    rw [values_under_cons, if_pos owned, unseen]
    simp [readable]
  · have foreign : ¬field.names.contains key = true :=
      fun owns => same (apart.unique field fieldMember owner member key owns owned)
    have otherName : field.name ≠ owner.name := by
      intro sameName
      have named := apart.named owner member
      rw [← sameName] at named
      exact same (apart.unique field fieldMember owner member field.name
        (apart.named field fieldMember) named)
    rw [values_under_cons, if_neg foreign, List.contains_cons,
      beq_false_of_ne otherName, Bool.false_or]

theorem first_fault_eq_none (apart : Apart fields) (seen : List String)
    (members : List (String × Json)) :
    firstFault fields seen members = none ↔ Clean fields seen members := by
  induction members generalizing seen with
  | nil => simp [firstFault, Clean, valuesUnder]
  | cons first rest ih =>
      obtain ⟨key, value⟩ := first
      rw [firstFault]
      cases found : fields.find? fun field => field.names.contains key with
      | none =>
          have foreign := List.find?_eq_none.mp found
          rw [clean_cons_of_foreign value foreign]
          exact ih seen
      | some owner =>
          have member := List.mem_of_find?_eq_some found
          have owned : owner.names.contains key = true :=
            List.find?_some (p := fun field : Field ε => field.names.contains key) found
          have under := (values_under_cons owner.names key value rest).trans (if_pos owned)
          simp only
          split
          · rename_i again
            simp only [reduceCtorEq, false_iff]
            intro clean
            have once := (clean owner member).1
            rw [under, if_pos again] at once
            exact absurd once (Nat.not_succ_le_zero _)
          · rename_i unseen
            cases readable : owner.fault value with
            | some error =>
                simp only [reduceCtorEq, false_iff]
                intro clean
                have fine := (clean owner member).2 value (by rw [under]; exact List.mem_cons_self)
                rw [readable] at fine
                cases fine
            | none =>
                rw [clean_cons_of_owned apart member owned (Bool.not_eq_true _ ▸ unseen) readable]
                exact ih (owner.name :: seen)

theorem find_member_eq (field : Field ε) (members : List (String × Json)) :
    field.findMember members = (valuesUnder field.names members).head? := by
  rw [valuesUnder, List.head?_map, List.head?_filter]
  rfl

theorem map_m_ok {α β : Type} {read : α → Except (RecordError ε) β} {items : List α}
    (value : α → β) (each : ∀ item ∈ items, read item = .ok (value item)) :
    items.mapM read = .ok (items.map value) := by
  induction items with
  | nil => rfl
  | cons first rest ih =>
      rw [List.mapM_cons, each first List.mem_cons_self,
        ih fun item member => each item (List.mem_cons_of_mem _ member)]
      rfl

theorem of_members_eq_ok (apart : Apart fields)
    (optional : ∀ field ∈ fields, field.required = false) :
    ofMembers fields members = .ok values ↔ Clean fields [] members ∧
      values = fields.map fun field => (valuesUnder field.names members).head? := by
  unfold ofMembers
  rw [← first_fault_eq_none apart]
  cases firstFault fields [] members with
  | some error => simp
  | none =>
      simp only [true_and]
      rw [map_m_ok fun field : Field ε => (valuesUnder field.names members).head?]
      · rw [Except.ok.injEq, eq_comm]
      · intro field member
        rw [find_member_eq, optional field member]
        cases (valuesUnder field.names members).head? with
        | none => rfl
        | some value => rfl

theorem of_items_cons {field : Field ε} {items : List Json} {found : Option Json}
    (optional : field.required = false) :
    ofItems (field :: fields) items = .ok (found :: values) ↔
      (∀ json ∈ items.head?.toList, field.fault json = none) ∧ found = items.head? ∧
        ofItems fields items.tail = .ok values := by
  cases items with
  | nil =>
      cases rest : ofItems fields [] with
      | error error => simp [ofItems, optional, rest, Except.map]
      | ok others => simp [ofItems, optional, rest, Except.map, eq_comm]
  | cons item items =>
      cases fault : field.fault item with
      | some error => simp [ofItems, fault]
      | none =>
          cases rest : ofItems fields items with
          | error error => simp [ofItems, fault, rest, Except.map]
          | ok others => simp [ofItems, fault, rest, Except.map, eq_comm]

theorem of_items_nil {items : List Json} :
    ofItems ([] : List (Field ε)) items = .ok [] ↔ items = [] := by
  cases items with
  | nil => simp [ofItems]
  | cons item items => simp [ofItems]

end Field

/-! ## Keys of a patch -/

namespace Decoder

variable {ε α : Type}

/-- What is asked for under a key with these values. A key that is left out or null asks for
nothing, and one that is there twice is a mistake. -/
def Given (write : α → Json) (values : List Json) : Option α → Prop
  | none => values = [] ∨ values = [.null]
  | some value => values = [write value]

theorem given_nil {write : α → Json} {choice : Option α} :
    Given write [] choice ↔ choice = none := by
  cases choice with
  | none => simp [Given]
  | some value => simp [Given]

structure Reads (decoder : Decoder ε α) (write : α → Json) (fits : α → Prop) : Prop where
  reads : ∀ json value, decoder json = .ok value ↔ json = write value ∧ fits value
  notNull : ∀ value, write value ≠ .null

theorem bool_reads : Reads (bool : Decoder ε Bool) .bool fun _ => True where
  reads := by
    intro json value
    cases json with
    | bool given => simp [bool]
    | _ => simp [bool]
  notNull := by simp

theorem natural_reads (limit : Nat) :
    Reads (natural limit : Decoder ε Nat) .ofNat fun n => n ≤ limit where
  reads := by
    intro json value
    cases json with
    | number number =>
        cases number with
        | whole given =>
            simp only [natural, whole, Json.ofNat, Json.number.injEq, Number.whole.injEq]
            split
            · rename_i within
              simp only [Bool.and_eq_true, decide_eq_true_eq] at within
              simp only [Except.map, Except.ok.injEq]
              omega
            · rename_i outside
              simp only [Bool.and_eq_true, decide_eq_true_eq] at outside
              simp only [Except.map, reduceCtorEq, false_iff]
              omega
        | double given => simp [natural, whole, Except.map, Json.ofNat]
    | _ => simp [natural, whole, Except.map, Json.ofNat]
  notNull := by simp [Json.ofNat]

variable {decoder : Decoder ε α} {write : α → Json} {fits : α → Prop}

theorem nullable_of_ne_null {json : Json} (present : json ≠ .null) :
    nullable decoder json = (decoder json).map some := by
  cases json with
  | null => exact absurd rfl present
  | _ => rfl

theorem nullable_eq_ok (reader : Reads decoder write fits) (json : Json) (choice : Option α) :
    nullable decoder json = .ok choice ↔
      Given write [json] choice ∧ ∀ value, choice = some value → fits value := by
  by_cases isNull : json = .null
  · subst isNull
    cases choice with
    | none => simp [nullable, Given]
    | some value => simp [nullable, Given, (reader.notNull value).symm]
  · rw [nullable_of_ne_null isNull]
    cases choice with
    | none =>
        cases decoder json with
        | error error => simp [Except.map, Given, isNull]
        | ok value => simp [Except.map, Given, isNull]
    | some value =>
        have read := reader.reads json value
        cases found : decoder json with
        | error error =>
            rw [found] at read
            simpa [Except.map, Given] using read
        | ok other =>
            rw [found] at read
            simpa [Except.map, Given] using read

structure Entered (decoder : Decoder ε α) (values : List Json) (found : Option Json) : Prop where
  once : values.length ≤ 1
  readable : ∀ value ∈ values, Field.faultOf decoder value = none
  found : found = values.head?

theorem entered_place {value found : Option Json} : Entered decoder value.toList found ↔
    (∀ json ∈ value.toList, Field.faultOf decoder json = none) ∧ found = value := by
  constructor
  · rintro ⟨-, readable, same⟩
    exact ⟨readable, by simpa using same⟩
  · rintro ⟨readable, rfl⟩
    exact ⟨by cases found <;> simp, readable, by simp⟩

theorem field_or_eq_ok (reader : Reads decoder write fits) {values : List Json}
    (once : values.length ≤ 1) (choice : Option α) :
    fieldOr none (nullable decoder) values.head? = .ok choice ↔
      Given write values choice ∧ ∀ value, choice = some value → fits value := by
  match values with
  | [] =>
      cases choice with
      | none => simp [fieldOr, field?, Except.map, Given]
      | some value => simp [fieldOr, field?, Except.map, Given]
  | [json] =>
      rw [← nullable_eq_ok reader]
      cases found : nullable decoder json with
      | error error => simp [fieldOr, field?, found, Except.map]
      | ok value => simp [fieldOr, field?, found, Except.map]
  | first :: second :: rest => simp at once

theorem entered_of_given (reader : Reads decoder write fits) {values : List Json}
    {choice : Option α} (given : Given write values choice)
    (fitting : ∀ value, choice = some value → fits value) :
    Entered (nullable decoder) values values.head? where
  once := by
    cases choice with
    | none => rcases given with rfl | rfl <;> simp
    | some value =>
        rw [show values = [write value] from given]
        simp
  readable := by
    intro json member
    have single : values = [json] := by
      cases choice with
      | none => rcases given with rfl | rfl <;> simp_all
      | some value =>
          have same : values = [write value] := given
          simp_all
    have read := (nullable_eq_ok reader json choice).mpr ⟨single ▸ given, fitting⟩
    rw [Field.faultOf, read]
  found := rfl

theorem entered_iff (reader : Reads decoder write fits) (values : List Json) (choice : Option α) :
    (∃ found, Entered (nullable decoder) values found ∧
      fieldOr none (nullable decoder) found = .ok choice) ↔
      Given write values choice ∧ ∀ value, choice = some value → fits value := by
  constructor
  · rintro ⟨found, ⟨once, -, rfl⟩, read⟩
    exact (field_or_eq_ok reader once choice).mp read
  · rintro ⟨given, fitting⟩
    have entered := entered_of_given reader given fitting
    exact ⟨_, entered, (field_or_eq_ok reader entered.once choice).mpr ⟨given, fitting⟩⟩

end Decoder

namespace SettingsPatch

open Decoder

/-- The values that a section of settings has for a key: in an object those under its names, in an
array the one in its place. -/
def entries (names : List String) (place : Nat) : Json → List Json
  | .object members => Field.valuesUnder names members
  | .array items => items[place]?.toList
  | _ => []

/-- Only an object or a short array names keys, and null names none. -/
def IsSection : Json → Prop
  | .null => True
  | .object _ => True
  | .array items => items.length ≤ 3
  | _ => False

structure AskedBy (given : Json) (patch : SettingsPatch) : Prop where
  isSection : IsSection given
  live : Given .bool
    (entries ["enabledAsYouTypeCompilationErrorCheck", "enabledAsYouTypeCheck"] 0 given) patch.live
  delay : Given .ofNat (entries ["validationDelay", "validationDelayMs"] 1 given) patch.delay
  report : Given .bool (entries ["reportImportErrors"] 2 given) patch.report

def fields : List (Field SettingsError) :=
  [.optional ["enabledAsYouTypeCompilationErrorCheck", "enabledAsYouTypeCheck"] (nullable bool),
    .optional ["validationDelay", "validationDelayMs"] (nullable (natural Decimal.maxLong)),
    .optional ["reportImportErrors"] (nullable bool)]

theorem fields_apart : Field.Apart fields where
  named := by simp [fields, Field.optional, Field.name]
  unique := by simp [fields, Field.optional]

variable {json : Json} {patch : SettingsPatch}

theorem bind_eq_ok {ε α β : Type} {first : Except ε α} {next : α → Except ε β} {result : β} :
    first >>= next = .ok result ↔ ∃ value, first = .ok value ∧ next value = .ok result := by
  cases first with
  | error error => simp [bind, Except.bind]
  | ok value => simp [bind, Except.bind]

theorem decode_eq_ok : decode json = .ok patch ↔
    ∃ live delay report, Field.readAll fields json = .ok [live, delay, report] ∧
      fieldOr none (nullable (bool : Decoder SettingsError Bool)) live = .ok patch.live ∧
      fieldOr none (nullable (natural Decimal.maxLong : Decoder SettingsError Nat)) delay =
        .ok patch.delay ∧
      fieldOr none (nullable (bool : Decoder SettingsError Bool)) report = .ok patch.report := by
  have unfolded : decode json = Field.readAll fields json >>= _ := rfl
  rw [unfolded, bind_eq_ok]
  constructor
  · rintro ⟨values, read, rest⟩
    split at rest
    · rename_i live delay report
      simp only [bind_eq_ok, pure, Except.pure, Except.ok.injEq] at rest
      obtain ⟨liveValue, readLive, delayValue, readDelay, reportValue, readReport, rfl⟩ := rest
      exact ⟨live, delay, report, read, readLive, readDelay, readReport⟩
    · cases rest
  · rintro ⟨live, delay, report, read, readLive, readDelay, readReport⟩
    refine ⟨_, read, ?_⟩
    simp only [bind_eq_ok, pure, Except.pure, Except.ok.injEq]
    exact ⟨patch.live, readLive, patch.delay, readDelay, patch.report, readReport, rfl⟩

theorem read_all_eq_ok {live delay report : Option Json} :
    Field.readAll fields json = .ok [live, delay, report] ↔ json ≠ .null ∧ IsSection json ∧
      Entered (nullable (bool : Decoder SettingsError Bool))
        (entries ["enabledAsYouTypeCompilationErrorCheck", "enabledAsYouTypeCheck"] 0 json) live ∧
      Entered (nullable (natural Decimal.maxLong : Decoder SettingsError Nat))
        (entries ["validationDelay", "validationDelayMs"] 1 json) delay ∧
      Entered (nullable (bool : Decoder SettingsError Bool))
        (entries ["reportImportErrors"] 2 json) report := by
  cases json with
  | object members =>
      have optional : ∀ field ∈ fields, field.required = false := by simp [fields, Field.optional]
      rw [Field.readAll, Field.of_members_eq_ok fields_apart optional]
      constructor
      · rintro ⟨clean, same⟩
        simp only [fields, List.map_cons, List.map_nil, List.cons.injEq, and_true] at same
        simp only [Field.Clean, fields, List.forall_mem_cons] at clean
        exact ⟨by simp, trivial, ⟨clean.1.1, clean.1.2, same.1⟩,
          ⟨clean.2.1.1, clean.2.1.2, same.2.1⟩, ⟨clean.2.2.1.1, clean.2.2.1.2, same.2.2⟩⟩
      · rintro ⟨-, -, liveEntry, delayEntry, reportEntry⟩
        refine ⟨?_, ?_⟩
        · simp only [Field.Clean, fields, List.forall_mem_cons]
          exact ⟨⟨liveEntry.once, liveEntry.readable⟩, ⟨delayEntry.once, delayEntry.readable⟩,
            ⟨reportEntry.once, reportEntry.readable⟩, by simp⟩
        · rw [liveEntry.found, delayEntry.found, reportEntry.found]
          rfl
  | array items =>
      have ends : items.tail.tail.tail = [] ↔ items.length ≤ 3 := by
        rw [← List.length_eq_zero_iff]
        simp only [List.length_tail]
        omega
      have optional : ∀ (names : List String) {α : Type} (decoder : Decoder SettingsError α),
          (Field.optional names decoder).required = false := fun _ _ _ => rfl
      simp only [Field.readAll, fields, Field.of_items_cons (optional _ _), Field.of_items_nil,
        ends, entries, entered_place, IsSection, List.head?_eq_getElem?, List.getElem?_tail]
      constructor
      · rintro ⟨readLive, sameLive, readDelay, sameDelay, readReport, sameReport, short⟩
        exact ⟨by simp, short, ⟨readLive, sameLive⟩, ⟨readDelay, sameDelay⟩, readReport, sameReport⟩
      · rintro ⟨-, short, ⟨readLive, sameLive⟩, ⟨readDelay, sameDelay⟩, readReport, sameReport⟩
        exact ⟨readLive, sameLive, readDelay, sameDelay, readReport, sameReport, short⟩
  | null => simp [Field.readAll]
  | _ => simp [Field.readAll, IsSection]

theorem decode_iff : decode json = .ok patch ↔ json ≠ .null ∧ AskedBy json patch ∧
    ∀ ms, patch.delay = some ms → ms ≤ Decimal.maxLong := by
  rw [decode_eq_ok]
  constructor
  · rintro ⟨live, delay, report, read, readLive, readDelay, readReport⟩
    obtain ⟨present, isSection, liveEntry, delayEntry, reportEntry⟩ := read_all_eq_ok.mp read
    have givenLive := (entered_iff bool_reads _ _).mp ⟨live, liveEntry, readLive⟩
    have givenDelay := (entered_iff (natural_reads _) _ _).mp ⟨delay, delayEntry, readDelay⟩
    have givenReport := (entered_iff bool_reads _ _).mp ⟨report, reportEntry, readReport⟩
    exact ⟨present, ⟨isSection, givenLive.1, givenDelay.1, givenReport.1⟩, givenDelay.2⟩
  · rintro ⟨present, asked, fits⟩
    obtain ⟨live, liveEntry, readLive⟩ :=
      (entered_iff (ε := SettingsError) bool_reads _ _).mpr ⟨asked.live, fun _ _ => trivial⟩
    obtain ⟨delay, delayEntry, readDelay⟩ :=
      (entered_iff (ε := SettingsError) (natural_reads _) _ _).mpr ⟨asked.delay, fits⟩
    obtain ⟨report, reportEntry, readReport⟩ :=
      (entered_iff (ε := SettingsError) bool_reads _ _).mpr ⟨asked.report, fun _ _ => trivial⟩
    exact ⟨live, delay, report,
      read_all_eq_ok.mpr ⟨present, asked.isSection, liveEntry, delayEntry, reportEntry⟩,
      readLive, readDelay, readReport⟩

theorem asked_by_null : AskedBy .null patch ↔ patch = {} := by
  constructor
  · rintro ⟨-, live, delay, report⟩
    have noLive := given_nil.mp live
    have noDelay := given_nil.mp delay
    have noReport := given_nil.mp report
    cases patch
    simp_all
  · rintro rfl
    exact ⟨trivial, .inl rfl, .inl rfl, .inl rfl⟩

theorem of_settings_eq_ok (payload : Json) : ofSettings payload = .ok patch ↔
    AskedBy (section? payload) patch ∧ ∀ ms, patch.delay = some ms → ms ≤ Decimal.maxLong := by
  unfold ofSettings
  split
  · rename_i isNull
    rw [isNull, asked_by_null, Except.ok.injEq, eq_comm]
    exact ⟨fun same => ⟨same, by simp [same]⟩, fun asked => asked.1⟩
  · rename_i value present
    rw [decode_iff]
    exact ⟨fun read => read.2, fun asked => ⟨present, asked⟩⟩

end SettingsPatch

/-- A payload is accepted if it can be read and does not ask for too large a delay. -/
theorem ValidationSettings.apply_payload_eq_ok {settings next : ValidationSettings}
    {payload : Json} : settings.applyPayload payload = .ok next ↔
      ∃ patch, SettingsPatch.AskedBy (SettingsPatch.section? payload) patch ∧
        (∀ ms, patch.delay = some ms → ms ≤ 60000) ∧
        settings.Updated patch.live patch.delay patch.report next := by
  rw [applyPayload, SettingsPatch.bind_eq_ok]
  apply exists_congr
  intro patch
  rw [SettingsPatch.of_settings_eq_ok]
  constructor
  · rintro ⟨⟨asked, -⟩, applied⟩
    split at applied
    · rename_i changed updated
      cases applied
      exact ⟨asked, update_eq_ok.mp updated⟩
    · cases applied
  · rintro ⟨asked, within, changed⟩
    -- a delay of a minute at most is no long number
    have fits : ∀ ms, patch.delay = some ms → ms ≤ Decimal.maxLong := by
      intro ms given
      exact Nat.le_trans (within ms given) (by decide)
    refine ⟨⟨asked, fits⟩, ?_⟩
    rw [update_eq_ok.mpr ⟨within, changed⟩]

def SettingsPatch.Refused (payload : Json) : Prop :=
  ∀ patch, AskedBy (section? payload) patch → ∃ ms, patch.delay = some ms ∧ 60000 < ms

/-- Whether a payload is refused does not depend on the settings in force. -/
theorem ValidationSettings.apply_payload_refused (settings : ValidationSettings) (payload : Json) :
    SettingsPatch.Refused payload ↔ ∃ error, settings.applyPayload payload = .error error := by
  constructor
  · intro refused
    cases applied : settings.applyPayload payload with
    | error error => exact ⟨error, rfl⟩
    | ok next =>
        obtain ⟨patch, asked, within, -⟩ := apply_payload_eq_ok.mp applied
        obtain ⟨ms, given, large⟩ := refused patch asked
        exact absurd (within ms given) (Nat.not_le_of_lt large)
  · rintro ⟨error, applied⟩ patch asked
    by_cases large : ∃ ms, patch.delay = some ms ∧ 60000 < ms
    · exact large
    · have within : ∀ ms, patch.delay = some ms → ms ≤ maxDelay := by
        intro ms given
        exact Nat.le_of_not_lt fun larger => large ⟨ms, given, larger⟩
      obtain ⟨next, updated⟩ := settings.update_of_within patch.live patch.report within
      have accepted : settings.applyPayload payload = .ok next :=
        apply_payload_eq_ok.mpr ⟨patch, asked, within, (update_eq_ok.mp updated).2⟩
      rw [accepted] at applied
      cases applied

/-- What a payload makes of the settings: all keys that it names are changed and nothing else, or it
is refused and nothing is changed at all. -/
inductive Settings.Adopts (payload : Json) (before : Settings) : Settings → Prop
  | all {after : Settings} {patch : SettingsPatch}
      (asked : SettingsPatch.AskedBy (SettingsPatch.section? payload) patch)
      (within : ∀ ms, patch.delay = some ms → ms ≤ 60000)
      (changed : before.validation.Updated patch.live patch.delay patch.report after.validation)
      (kept : after.compiler = before.compiler) : Adopts payload before after
  | nothing (refused : SettingsPatch.Refused payload) : Adopts payload before before

end TactServer
