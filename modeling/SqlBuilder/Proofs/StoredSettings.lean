import SqlBuilder.Settings.Stored
import SqlBuilder.Proofs.JsonReading

/-!
# Reading stored settings

Settings that are written can be read back, and an object that gives some of the settings among
other fields is read as those settings, with the default for what it does not give. Neither the
order of the fields, the spelling of their names and values nor what else stands in the object
matters (`Settings.stored_read`).
-/
namespace SqlBuilder

/-! ### What a field says -/

/-- The names of a dialect. -/
def Dialect.names : Dialect → List String
  | standard => ["standard", "postgres", "sqlite", "mysql"]
  | sqlServer => ["sql_server", "mssql"]

namespace Settings

/-- A dialect is given by a name of it, or by an object with null under that name. -/
inductive NamesDialect : Json → Dialect → Prop
  | name {dialect : Dialect} {name : String} (known : name ∈ dialect.names) :
      NamesDialect (.string (some name)) dialect
  | tag {dialect : Dialect} {name : String} (known : name ∈ dialect.names) :
      NamesDialect (.object [(some name, .null)]) dialect

inductive GivesFlag : Json → Bool → Prop
  | flag (flag : Bool) : GivesFlag (.bool flag) flag

/-- A limit is a number, or null where there is none. -/
inductive GivesLimit : Json → Option UInt64 → Prop
  | lifted : GivesLimit .null none
  | count (limit : UInt64) : GivesLimit (.number (decimal limit).toList) (some limit)

/-- What the fields of an object say of one setting: the value of the one field with its name, or
nothing, which leaves the default. -/
inductive Says {α : Type} (name : String) (gives : Json → α → Prop) (default : α) :
    List (String × Json) → α → Prop
  | nothing {fields : List (String × Json)} (absent : ∀ field ∈ fields, field.1 ≠ name) :
      Says name gives default fields default
  | value (front back : List (String × Json)) {value : Json} {setting : α}
      (given : gives value setting) (first : ∀ field ∈ front, field.1 ≠ name)
      (last : ∀ field ∈ back, field.1 ≠ name) :
      Says name gives default (front ++ (name, value) :: back) setting

/-- The settings that the fields of an object give, among any other fields. -/
structure Describes (fields : List (String × Json)) (s : Settings) : Prop where
  dialect : Says "dialect" NamesDialect ({} : Settings).dialect fields s.dialect
  flag : Says "log_sql" GivesFlag ({} : Settings).logStatements fields s.logStatements
  limit : Says "max_logged_sql_length" GivesLimit ({} : Settings).maxLoggedBytes fields
    s.maxLoggedBytes

/-! ### Reading a field -/

theorem ofJson?_of_namesDialect {value : Json} {dialect : Dialect}
    (named : NamesDialect value dialect) : Dialect.ofJson? value = some dialect := by
  have known {name : String} (listed : name ∈ dialect.names) :
      Dialect.ofName? name = some dialect := by
    have each : ∀ dialect : Dialect, ∀ name ∈ dialect.names,
        Dialect.ofName? name = some dialect := by
      intro dialect
      cases dialect <;> decide
    exact each dialect name listed
  cases named with
  | name listed => exact known listed
  | tag listed => exact known listed

theorem flagOfJson?_of_givesFlag {value : Json} {flag : Bool} (given : GivesFlag value flag) :
    flagOfJson? value = some flag := by
  cases given
  rfl

theorem natural?_decimal (n : UInt64) :
    (Json.number (decimal n).toList).natural? = some n.toNat := by
  have digits : (decimal n).toList.all Char.isDigit = true :=
    List.all_eq_true.mpr fun c => isDigit_of_mem_decimal
  rw [Json.natural?, if_pos digits, ofDigitChars_decimal]

theorem limitOfJson?_of_givesLimit {value : Json} {limit : Option UInt64}
    (given : GivesLimit value limit) : limitOfJson? value = some limit := by
  cases given with
  | lifted => rfl
  | count limit =>
    have small : limit.toNat < UInt64.size := limit.toNat_lt
    simp [limitOfJson?, natural?_decimal, small]

/-- The fields as the reader has them. A name in which half a character is left over is no text, and
no field has it. -/
def written (fields : List (String × Json)) : List (Option String × Json) :=
  fields.map fun field => (some field.1, field.2)

theorem filter_written_of_absent {name : String} {fields : List (String × Json)}
    (absent : ∀ field ∈ fields, field.1 ≠ name) :
    (written fields).filter (·.1 = some name) = [] := by
  rw [List.filter_eq_nil_iff]
  intro field member
  obtain ⟨given, listed, rfl⟩ := List.mem_map.mp member
  simpa using absent given listed

theorem orDefault_of_says {α : Type} {name : String} {gives : Json → α → Prop} {default setting : α}
    {fields : List (String × Json)} {read? : Json → Option α}
    (said : Says name gives default fields setting)
    (readable : ∀ value setting, gives value setting → read? value = some setting) :
    ∃ found, field? (written fields) name = some found ∧
      orDefault default read? found = some setting := by
  cases said with
  | nothing absent =>
    exact ⟨none, by rw [field?, filter_written_of_absent absent], rfl⟩
  | @value front back value setting given first last =>
    refine ⟨some value, ?_, readable value setting given⟩
    have only : (written (front ++ (name, value) :: back)).filter (·.1 = some name) =
        [(some name, value)] := by
      have front' := filter_written_of_absent first
      have back' := filter_written_of_absent last
      simp only [written] at front' back' ⊢
      simp [List.filter_append, front', back']
    rw [field?, only]

theorem ofJson?_of_describes {fields : List (String × Json)} {s : Settings}
    (described : Describes fields s) : ofJson? (.object (written fields)) = some s := by
  obtain ⟨dialect, foundDialect, readDialect⟩ :=
    orDefault_of_says described.dialect fun _ _ => ofJson?_of_namesDialect
  obtain ⟨flag, foundFlag, readFlag⟩ :=
    orDefault_of_says described.flag fun _ _ => flagOfJson?_of_givesFlag
  obtain ⟨limit, foundLimit, readLimit⟩ :=
    orDefault_of_says described.limit fun _ _ => limitOfJson?_of_givesLimit
  have named : (written fields).all (·.1.isSome) = true := by simp [written]
  rw [ofJson?, if_pos named]
  simp [foundDialect, foundFlag, foundLimit, ofFields?, readDialect, readFlag, readLimit]

theorem ofText?_of_describes {text : String} {fields : List (String × Json)} {s : Settings}
    (spelled : Json.Spells (.object (written fields)) text.toList)
    (described : Describes fields s) : ofText? text = some s := by
  rw [ofText?, Json.read?_of_spells spelled]
  exact ofJson?_of_describes described

/-! ### Reading settings back -/

/-- The fields that settings are written as. -/
def fieldsOf (s : Settings) : List (String × Json) :=
  [("dialect", .string (some s.dialect.name)), ("log_sql", .bool s.logStatements),
    ("max_logged_sql_length",
      s.maxLoggedBytes.elim .null fun limit => .number (decimal limit).toList)]

theorem describes_fieldsOf (s : Settings) : Describes s.fieldsOf s where
  dialect := by
    have listed : s.dialect.name ∈ s.dialect.names := by cases s.dialect <;> decide
    exact .value [] _ (.name listed) (by simp) (by simp)
  flag := .value [_] _ (.flag s.logStatements) (by simp) (by simp)
  limit := by
    have given : GivesLimit
        (s.maxLoggedBytes.elim .null fun limit => .number (decimal limit).toList)
        s.maxLoggedBytes := by
      cases s.maxLoggedBytes with
      | none => exact .lifted
      | some limit => exact .count limit
    exact .value [_, _] [] given (by simp) (by simp)

theorem spells_toJson (s : Settings) :
    Json.Spells (.object (written s.fieldsOf)) s.toJson.toList := by
  have dialect := Json.spells_plain s.dialect.name
    (by cases s.dialect <;> simp [Dialect.name])
  have flag : Json.Spells (.bool s.logStatements)
      (if s.logStatements then "true" else "false").toList := by
    cases s.logStatements with
    | false => exact .false
    | true => exact .true
  have limit : Json.Spells
      (s.maxLoggedBytes.elim .null fun limit => .number (decimal limit).toList)
      (s.maxLoggedBytes.elim "null" decimal).toList := by
    cases s.maxLoggedBytes with
    | none => exact .null
    | some limit => exact .number (Json.numberText_decimal limit)
  have spelled := Json.Spells.object
    (.more (Json.spells_plain "dialect" (by simp)) dialect
      (.more (Json.spells_plain "log_sql" (by simp)) flag
        (.last (Json.spells_plain "max_logged_sql_length" (by simp)) limit)))
  refine Eq.mp (congrArg _ (Eq.symm ?_)) spelled
  unfold toJson
  cases s.maxLoggedBytes <;> simp

/-- Written settings are read back. Of any object, however it is spelled, those of its fields that
give a setting are read, and the others skipped. -/
theorem stored_read :
    (∀ s : Settings, ofText? s.toJson = some s) ∧
      ∀ (text : String) (fields : List (String × Json)) (s : Settings),
        Json.Spells (.object (written fields)) text.toList → Describes fields s →
          ofText? text = some s := by
  refine ⟨fun s => ?_, fun text fields s spelled described => ?_⟩
  · exact ofText?_of_describes s.spells_toJson s.describes_fieldsOf
  · exact ofText?_of_describes spelled described

/-- Half a character in a field that is skipped, and an escape in a name. -/
theorem stored_read_escaped :
    Json.Spells
        (.object (written [("other", .array [.string none]), ("dialect", .string (some "mssql"))]))
        "\x7b\"other\":[\"\\ud800\"],\"\\u0064ialect\":\"mssql\"\x7d".toList ∧
      Describes [("other", .array [.string none]), ("dialect", .string (some "mssql"))]
        ⟨.sqlServer, true, some 200⟩ ∧
      ofText? "\x7b\"other\":[\"\\ud800\"],\"\\u0064ialect\":\"mssql\"\x7d" =
        some ⟨.sqlServer, true, some 200⟩ := by
  have zero : ('0', 0) ∈ Json.hexDigits := by decide
  have half : Json.Points [0xD800] ['\\', 'u', 'd', '8', '0', '0'] :=
    .code (show ('d', 13) ∈ Json.hexDigits by decide) (show ('8', 8) ∈ Json.hexDigits by decide)
      zero zero .nil
  have unpaired (text : List Char) : ¬ Json.Denotes [0xD800] text := by
    intro denotes
    cases Json.textOf_of_denotes denotes
  have tail : Json.Points ("ialect".toList.map Char.toNat) "ialect".toList :=
    Json.points_plain (by simp)
  have escaped : Json.Points ("dialect".toList.map Char.toNat)
      ('\\' :: 'u' :: '0' :: '0' :: '6' :: '4' :: "ialect".toList) :=
    .code zero zero (show ('6', 6) ∈ Json.hexDigits by decide)
      (show ('4', 4) ∈ Json.hexDigits by decide) tail
  have spelled := Json.Spells.object
    (.more (Json.spells_plain "other" (by simp)) (.array (.last (.string (.broken half unpaired))))
      (.last (.string (.text escaped (Json.denotes_self _))) (Json.spells_plain "mssql" (by simp))))
  have described : Describes [("other", .array [.string none]), ("dialect", .string (some "mssql"))]
      ⟨.sqlServer, true, some 200⟩ :=
    { dialect := .value [_] [] (.name (by decide)) (by simp) (by simp)
      flag := .nothing (by simp)
      limit := .nothing (by simp) }
  refine ⟨spelled, described, stored_read.2 _ _ _ ?_ described⟩
  exact spelled

end Settings
end SqlBuilder
