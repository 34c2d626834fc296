import JsonBinding.Json.Record
import JsonBinding.Proofs.Json.Token
/-!
Lists, maps, records and variants that are written are read back, if what they are made of is: the
items of an array (`reads_array`), the values of a map (`reads_map`), the fields of a record in
their order (`RecordForm.reads_object`) and the content of a variant (`reads_variant`).
-/
namespace JsonBinding

section Maps

variable {κ α : Type} [DecidableEq κ]

theorem putEntry_of_absent {key : κ} {entries : List (κ × α)} (value : α)
    (absent : key ∉ entries.map Prod.fst) :
    putEntry key value entries = entries ++ [(key, value)] := by
  induction entries with
  | nil => rfl
  | cons entry rest ih =>
    obtain ⟨k, v⟩ := entry
    rw [List.map_cons, List.mem_cons, not_or] at absent
    rw [putEntry, if_neg (Ne.symm absent.1), ih absent.2, List.cons_append]

theorem OrderedMap.foldl_insert {entries : List (κ × α)} (map : OrderedMap κ α)
    (nodup : ((map.entries ++ entries).map Prod.fst).Nodup) :
    (entries.foldl (fun map entry => map.insert entry.1 entry.2) map).entries =
      map.entries ++ entries := by
  induction entries generalizing map with
  | nil => exact (List.append_nil _).symm
  | cons entry rest ih =>
    have absent : entry.1 ∉ map.entries.map Prod.fst := by
      rw [List.map_append, List.map_cons, List.nodup_append] at nodup
      intro among
      exact nodup.2.2 _ among _ List.mem_cons_self rfl
    have grown : (map.insert entry.1 entry.2).entries = map.entries ++ [entry] :=
      putEntry_of_absent entry.2 absent
    have regrouped :
        (map.insert entry.1 entry.2).entries ++ rest = map.entries ++ entry :: rest := by
      rw [grown, List.append_assoc, List.singleton_append]
    rw [List.foldl_cons, ih _ (by rwa [regrouped]), regrouped]

theorem OrderedMap.ofList_entries (map : OrderedMap κ α) : ofList map.entries = map :=
  OrderedMap.ext (foldl_insert empty map.nodup)

end Maps

namespace Json

variable {α : Type}

section Lists

/-- Texts with commas in between, from the start of a list or from a later place in it. -/
def listed : (isFirst : Bool) → List (List Char) → List Char
  | _, [] => []
  | true, text :: texts => text ++ listed false texts
  | false, text :: texts => ',' :: text ++ listed false texts

theorem listed_true (texts : List (List Char)) : listed true texts = separated texts := by
  have following (text : List Char) (texts : List (List Char)) :
      separated (text :: texts) = text ++ listed false texts := by
    induction texts generalizing text with
    | nil => exact (List.append_nil text).symm
    | cons next texts ih =>
      have step : separated (text :: next :: texts) = text ++ ',' :: separated (next :: texts) :=
        rfl
      rw [step, ih next]
      rfl
  cases texts with
  | nil => rfl
  | cons text texts => exact (following text texts).symm

theorem length_le_listed (texts : List (List Char)) (isFirst : Bool) :
    texts.length ≤ (listed isFirst texts).length + 1 := by
  have later (texts : List (List Char)) : texts.length ≤ (listed false texts).length := by
    induction texts with
    | nil => exact Nat.le_refl 0
    | cons text texts ih =>
      simp only [listed, List.cons_append, List.length_cons, List.length_append]
      omega
  cases isFirst
  · exact (later texts).trans (Nat.le_succ _)
  · cases texts with
    | nil => exact Nat.zero_le _
    | cons text texts =>
      have := later texts
      simp only [listed, List.length_cons, List.length_append]
      omega

theorem ends_listed (texts : List (List Char)) {rest : List Char} (ends : Ends rest) :
    Ends (listed false texts ++ rest) := by
  cases texts with
  | nil => exact ends
  | cons text texts => exact .comma _

theorem nextItem?_listed (isFirst : Bool) {text : List Char} (texts : List (List Char))
    (rest : List Char) (opens : Opens text) :
    nextItem? isFirst (listed isFirst (text :: texts) ++ rest) =
      .ok (some (text ++ (listed false texts ++ rest))) := by
  obtain ⟨c, tail, rfl, solid, goesOn⟩ := opens
  cases isFirst
  · simp [nextItem?, listed, skipSpace_cons (show isSpace ',' = false from rfl),
      skipSpace_cons solid, goesOn]
  · simp [nextItem?, listed, skipSpace_cons solid]

theorem readItems_listed {item : List Char → Except Fault (α × List Char)}
    {write : α → List Char} {items : List α} (each : ∀ a ∈ items, Reads item (write a) a)
    (isFirst : Bool) {steps : Nat} (enough : items.length < steps) (rest : List Char) :
    readItems item steps isFirst (listed isFirst (items.map write) ++ ']' :: rest) =
      .ok (items, ']' :: rest) := by
  induction items generalizing isFirst steps with
  | nil =>
    obtain ⟨steps, rfl⟩ := Nat.exists_eq_succ_of_ne_zero (Nat.ne_zero_of_lt enough)
    cases isFirst <;> rfl
  | cons a items ih =>
    obtain ⟨steps, rfl⟩ := Nat.exists_eq_succ_of_ne_zero (Nat.ne_zero_of_lt enough)
    have first := each a List.mem_cons_self
    have others := ih (fun b among => each b (List.mem_cons_of_mem _ among)) false
      (Nat.lt_of_succ_lt_succ enough)
    have ends := ends_listed (items.map write) (.bracket rest)
    rw [readItems, List.map_cons, nextItem?_listed isFirst _ _ first.opens]
    simp only [ok_bind, first.reads ends, others]
    rfl

theorem reads_array {item : List Char → Except Fault (α × List Char)} {write : α → List Char}
    {items : List α} (each : ∀ a ∈ items, Reads item (write a) a) :
    Reads (readArray item) (array (items.map write)) items where
  opens := ⟨'[', _, rfl, rfl, by decide⟩
  reads {rest} _ := by
    have enough : items.length < (listed true (items.map write) ++ ']' :: rest).length + 1 := by
      have := length_le_listed (items.map write) true
      rw [List.length_map] at this
      simp only [List.length_append, List.length_cons]
      omega
    have whole : array (items.map write) ++ rest =
        '[' :: (listed true (items.map write) ++ ']' :: rest) := by
      simp [array, listed_true]
    rw [whole]
    apply readToken_cons rfl
    simp only [if_true, readItems_listed each true enough rest, ok_bind,
      expectMark_cons ']' rfl]
    rfl

end Lists

section Objects

def entryText (entry : String × List Char) : List Char :=
  quoted entry.1 ++ ':' :: entry.2

theorem object_append (entries : List (String × List Char)) (rest : List Char) :
    object entries ++ rest = '{' :: (listed true (entries.map entryText) ++ '}' :: rest) := by
  simp only [object, listed_true, List.cons_append, List.append_assoc, List.nil_append]
  rfl

theorem length_lt_object (entries : List (String × List Char)) (rest : List Char) :
    entries.length < (listed true (entries.map entryText) ++ '}' :: rest).length + 1 := by
  have := length_le_listed (entries.map entryText) true
  rw [List.length_map] at this
  simp only [List.length_append, List.length_cons]
  omega

theorem opens_object (entries : List (String × List Char)) : Opens (object entries) :=
  ⟨'{', _, rfl, rfl, by decide⟩

theorem nextKey?_listed (isFirst : Bool) (key : String) (value : List Char)
    (texts : List (List Char)) (rest : List Char) :
    nextKey? isFirst (listed isFirst (entryText (key, value) :: texts) ++ rest) =
      .ok (some (key, ':' :: (value ++ (listed false texts ++ rest)))) := by
  have quote : isSpace '"' = false := rfl
  have comma : isSpace ',' = false := rfl
  have read := readQuoted_quoted key (':' :: (value ++ (listed false texts ++ rest)))
  cases isFirst <;>
    simp [nextKey?, listed, entryText, quoted, skipSpace_cons quote, skipSpace_cons comma, read,
      Except.map]

theorem nextKey?_nil (isFirst : Bool) (rest : List Char) :
    nextKey? isFirst (listed isFirst [] ++ '}' :: rest) = .ok none := by
  cases isFirst <;> rfl

theorem readEntries_listed {value : List Char → Except Fault (α × List Char)}
    {write : α → List Char} {entries : List (String × α)}
    (each : ∀ entry ∈ entries, Reads value (write entry.2) entry.2) (isFirst : Bool) {steps : Nat}
    (enough : entries.length < steps) (rest : List Char) :
    readEntries value steps isFirst
        (listed isFirst ((entries.map fun entry => (entry.1, write entry.2)).map entryText) ++
          '}' :: rest) =
      .ok (entries, '}' :: rest) := by
  induction entries generalizing isFirst steps with
  | nil =>
    obtain ⟨steps, rfl⟩ := Nat.exists_eq_succ_of_ne_zero (Nat.ne_zero_of_lt enough)
    rw [readEntries, List.map_nil, List.map_nil, nextKey?_nil]
    cases isFirst <;> rfl
  | cons entry entries ih =>
    obtain ⟨key, a⟩ := entry
    obtain ⟨steps, rfl⟩ := Nat.exists_eq_succ_of_ne_zero (Nat.ne_zero_of_lt enough)
    have first := each (key, a) List.mem_cons_self
    have others := ih (fun other among => each other (List.mem_cons_of_mem _ among)) false
      (Nat.lt_of_succ_lt_succ enough)
    have ends := ends_listed ((entries.map fun entry => (entry.1, write entry.2)).map entryText)
      (.brace rest)
    rw [readEntries, List.map_cons, List.map_cons, nextKey?_listed]
    simp only [ok_bind, expectMark_cons ':' rfl, first.reads ends, others]
    rfl

theorem reads_map {value : List Char → Except Fault (α × List Char)} {write : α → List Char}
    {map : OrderedMap String α}
    (each : ∀ entry ∈ map.entries, Reads value (write entry.2) entry.2) :
    Reads (readMap value) (object (map.entries.map fun entry => (entry.1, write entry.2))) map where
  opens := opens_object _
  reads {rest} _ := by
    have enough := length_lt_object (map.entries.map fun entry => (entry.1, write entry.2)) rest
    rw [List.length_map] at enough
    rw [object_append]
    apply readToken_cons rfl
    simp only [if_true, readEntries_listed each true enough rest, ok_bind,
      expectMark_cons '}' rfl, OrderedMap.ofList_entries]
    rfl

end Objects

section Records

/-- Texts of fields that are read, in the order of the fields, from one record to another. -/
inductive FieldsRead : List (FieldForm α) → List (String × List Char) → α → α → Prop
  | done (record : α) : FieldsRead [] [] record record
  | next {field : FieldForm α} {fields : List (FieldForm α)} {text : List Char}
      {entries : List (String × List Char)} {first second last : α} :
      Reads (field.read first) text second → FieldsRead fields entries second last →
      FieldsRead (field :: fields) ((field.name, text) :: entries) first last

namespace RecordForm

theorem missing?_all (form : RecordForm α) {seen : List String}
    (all : ∀ field ∈ form.fields, field.name ∈ seen) : form.missing? seen = none := by
  have found : form.fields.find? (fun field => field.isRequired && !seen.contains field.name) =
      none := by
    rw [List.find?_eq_none]
    intro field among
    simp [all field among]
  rw [missing?, found]
  rfl

/-- The fields of a record are read back, from any of them on. Those in `past` have been read; their
names are those that were seen, the last one first. -/
theorem readNamed_listed (form : RecordForm α) (distinct : (form.fields.map (·.name)).Nodup)
    {pending : List (FieldForm α)} {entries : List (String × List Char)} {record last : α}
    (read : FieldsRead pending entries record last) (past : List (FieldForm α))
    (split : form.fields = past ++ pending) (isFirst : Bool) {steps : Nat}
    (enough : entries.length < steps) (rest : List Char) :
    form.readNamed steps isFirst (past.map (·.name)).reverse record
        (listed isFirst (entries.map entryText) ++ '}' :: rest) =
      .ok (last, '}' :: rest) := by
  induction read generalizing past isFirst steps with
  | done record =>
    obtain ⟨steps, rfl⟩ := Nat.exists_eq_succ_of_ne_zero (Nat.ne_zero_of_lt enough)
    rw [List.append_nil] at split
    have complete : form.missing? (past.map (·.name)).reverse = none := by
      apply form.missing?_all
      intro field among
      rw [List.mem_reverse]
      exact List.mem_map_of_mem (split ▸ among)
    rw [readNamed, List.map_nil, nextKey?_nil]
    simp only [ok_bind, complete]
    cases isFirst <;> rfl
  | @next field fields text entries record second last one _ ih =>
    obtain ⟨steps, rfl⟩ := Nat.exists_eq_succ_of_ne_zero (Nat.ne_zero_of_lt enough)
    have fresh : field.name ∉ past.map (·.name) := by
      rw [split, List.map_append, List.map_cons, List.nodup_append] at distinct
      intro among
      exact distinct.2.2 _ among _ List.mem_cons_self rfl
    have found : form.fields.find? (·.name = field.name) = some field := by
      have passed : past.find? (·.name = field.name) = none := by
        rw [List.find?_eq_none]
        intro other among same
        exact fresh (of_decide_eq_true same ▸ List.mem_map_of_mem among)
      rw [split, List.find?_append, passed, Option.none_or]
      exact List.find?_cons_of_pos (decide_eq_true rfl)
    have unseen : (past.map (·.name)).reverse.contains field.name = false := by
      simpa using fresh
    have others := ih (past ++ [field]) (by rw [split, List.append_assoc]; rfl) false
      (Nat.lt_of_succ_lt_succ enough)
    rw [List.map_append, List.reverse_append] at others
    have ends := ends_listed (entries.map entryText) (.brace rest)
    rw [readNamed, List.map_cons, nextKey?_listed]
    simp only [ok_bind, found, unseen, expectMark_cons ':' rfl, one.reads ends]
    exact others

/-- A record that is written as an object with its fields in order is read back. -/
theorem reads_object (form : RecordForm α) (distinct : (form.fields.map (·.name)).Nodup)
    {entries : List (String × List Char)} {record : α}
    (read : FieldsRead form.fields entries form.blank record) :
    Reads form.read (object entries) record where
  opens := opens_object entries
  reads {rest} _ := by
    have named := form.readNamed_listed distinct read [] rfl true
      (length_lt_object entries rest) rest
    rw [object_append]
    apply readToken_cons rfl
    rw [List.map_nil, List.reverse_nil] at named
    simp only [if_true, named, ok_bind, expectMark_cons '}' rfl]
    rfl

end RecordForm

end Records

section Variants

variable {forms : List (VariantForm α)} {form : VariantForm α} {value : α}

theorem VariantForm.named_eq {name : String} (found : forms.find? (·.name = name) = some form) :
    named forms name = .ok form := by
  rw [named, found]

theorem reads_variant {name : String} {text : List Char}
    (found : forms.find? (·.name = name) = some form) (content : Reads form.read text value) :
    Reads (readVariant forms) (object [(name, text)]) value where
  opens := opens_object _
  reads {rest} _ := by
    have brace : isSpace '{' = false := rfl
    have whole : object [(name, text)] ++ rest =
        '{' :: (quoted name ++ ':' :: (text ++ '}' :: rest)) := by
      simp [object, separated]
    rw [whole, readVariant, skipSpace_cons brace]
    simp only [readStringAs_quoted, ok_bind, VariantForm.named_eq found, expectMark_cons ':' rfl,
      content.reads (.brace rest), expectMark_cons '}' rfl]
    rfl

theorem reads_bare_variant {name : String} (found : forms.find? (·.name = name) = some form)
    (alone : form.alone = .ok value) : Reads (readVariant forms) (quoted name) value where
  opens := opens_quoted name
  reads {rest} _ := by
    have quote : isSpace '"' = false := rfl
    rw [quoted_append, readVariant, skipSpace_cons quote]
    simp only [readQuoted_quoted, ok_bind, VariantForm.named_eq found, alone]
    rfl

end Variants

end Json

end JsonBinding
