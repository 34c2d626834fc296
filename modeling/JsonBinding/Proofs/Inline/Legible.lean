import JsonBinding.Proofs.Inline.Formed
import JsonBinding.Proofs.Name.Plain
/-!
The text of a converter can be read in one way only. A converter starts with a support function or
the name of a type, and which one it is says how the text goes on; a converter that is written as a
function ends at a comma, at a bracket or with the text. So a converter can be told from its text,
applied or not, and also where it stands among the arguments of another one
(`text_determines_converter`).
-/
namespace JsonBinding

namespace Converter

/-- Every support function is used for what it is there for, and all names are plain. -/
inductive Legible : Converter → Prop
  | identity : Legible .identity
  | function {c : Combinator} : c.role = .check → Legible (.function c)
  | nested {c : Combinator} {inner : Converter} : c.role = .wrapper → Legible inner →
      Legible (.nested c inner)
  | union {members : List Converter} : (∀ member ∈ members, Legible member) →
      Legible (.union members)
  | classFromDict {name : String} : IsPlainName name → Legible (.classFromDict name)
  | enumValue {name : String} : IsPlainName name → Legible (.enumValue name)
  | typed {c : Combinator} {name : String} : c.role = .naming → IsPlainName name →
      Legible (.typed c name)

/-- The members of a union as they are written, up to the bracket that closes them. -/
def row (members : List Converter) : List Char :=
  (", ".intercalate (callables members)).toList ++ [']']

/-- What is written in front of the value that a converter is applied to: the word that comes first,
and all that follows it. The identity is written as the value alone. -/
def front : Converter → Option (Lead × List Char)
  | identity => none
  | function c => some (.support c, ['('])
  | nested c inner => some (.support c, '(' :: (inner.callable.toList ++ [',', ' ']))
  | union members => some (.support .fromUnion, '(' :: '[' :: (row members ++ [',', ' ']))
  | classFromDict name => some (.named name, ".from_dict(".toList)
  | enumValue name => some (.named name, ['('])
  | typed c name => some (.support c, '(' :: (name.toList ++ [',', ' ']))

theorem toList_apply (c : Converter) (value : String) :
    (c.apply value).toList =
      match c.front with
      | none => value.toList
      | some (lead, inside) => lead.text.toList ++ (inside ++ (value.toList ++ [')'])) := by
  cases c <;> simp [apply, front, Lead.text, row, callable]

/-- The word that a converter starts with when it is written as a function. -/
def lead : Converter → Lead
  | function c => .support c
  | classFromDict name | enumValue name => .named name
  | identity | nested _ _ | union _ | typed _ _ => .lambda

/-- What is written behind the first word of a converter that is written as a function. -/
def behind : Converter → List Char
  | function _ | enumValue _ => []
  | classFromDict _ => ".from_dict".toList
  | c => " x: ".toList ++ (c.apply "x").toList

theorem toList_callable (c : Converter) :
    c.callable.toList = c.lead.text.toList ++ c.behind := by
  have opening : ("lambda " ++ argument ++ ": ").toList = "lambda".toList ++ " x: ".toList := by
    decide
  have anonymous : ("lambda " ++ argument ++ ": " ++ c.apply "x").toList =
      "lambda".toList ++ (" x: ".toList ++ (c.apply "x").toList) := by
    rw [String.toList_append, opening, List.append_assoc]
  cases c with
  | identity | nested _ _ | union _ | typed _ _ => exact anonymous
  | function c | enumValue name => exact (List.append_nil _).symm
  | classFromDict name => exact String.toList_append

/-- Nothing of a converter that is written as a function goes on here. -/
def Closes (rest : List Char) : Prop :=
  ∀ c ∈ rest.head?, c = ',' ∨ c = ']'

theorem closes_nil : Closes [] :=
  nofun

theorem closes_comma (rest : List Char) : Closes (',' :: rest) := by
  rintro _ ⟨⟩
  exact .inl rfl

theorem closes_bracket (rest : List Char) : Closes (']' :: rest) := by
  rintro _ ⟨⟩
  exact .inr rfl

theorem breaks_cons {c : Char} (mark : isIdentifierContinue c = false) (rest : List Char) :
    Breaks (c :: rest) := by
  rintro _ ⟨⟩
  exact mark

theorem Closes.breaks {rest : List Char} (closes : Closes rest) : Breaks rest := by
  intro c first
  rcases closes c first with rfl | rfl <;> decide +kernel

theorem breaks_behind (c : Converter) {rest : List Char} (closes : Closes rest) :
    Breaks (c.behind ++ rest) := by
  cases c with
  | function c | enumValue name => exact closes.breaks
  | classFromDict name => exact breaks_cons (by decide +kernel) _
  | identity | nested _ _ | union _ | typed _ _ => exact breaks_cons (by decide +kernel) _

theorem breaks_of_front {c : Converter} {lead : Lead} {inside : List Char}
    (front : c.front = some (lead, inside)) (rest : List Char) : Breaks (inside ++ rest) := by
  cases c with
  | identity => cases front
  | classFromDict name =>
    cases front
    exact breaks_cons (by decide +kernel) _
  | function _ | nested _ _ | union _ | enumValue _ | typed _ _ =>
    cases front
    exact breaks_cons (by decide +kernel) _

variable {a b : Converter}

theorem Legible.plain_lead (legible : a.Legible) : a.lead.Plain := by
  cases legible with
  | identity | function | nested | union | typed => trivial
  | classFromDict plain | enumValue plain => exact plain

theorem Legible.plain_front (legible : a.Legible) {lead : Lead} {inside : List Char}
    (front : a.front = some (lead, inside)) : lead.Plain := by
  cases legible with
  | identity => cases front
  | function | nested | union | typed =>
    cases front
    trivial
  | classFromDict plain | enumValue plain =>
    cases front
    exact plain

theorem Legible.of_support (legible : a.Legible) {c : Combinator} {inside : List Char}
    (front : a.front = some (.support c, inside)) :
    match c.role with
    | .check => a = .function c
    | .wrapper => ∃ inner, inner.Legible ∧ a = .nested c inner
    | .choice => ∃ members, (∀ member ∈ members, member.Legible) ∧ a = .union members
    | .naming => ∃ name, IsPlainName name ∧ a = .typed c name := by
  cases legible with
  | identity => cases front
  | function role =>
    cases front
    rw [role]
  | nested role inner =>
    cases front
    rw [role]
    exact ⟨_, inner, rfl⟩
  | union each =>
    cases front
    exact ⟨_, each, rfl⟩
  | classFromDict => cases front
  | enumValue => cases front
  | typed role plain =>
    cases front
    rw [role]
    exact ⟨_, plain, rfl⟩

theorem of_named {name : String} {inside : List Char}
    (front : a.front = some (.named name, inside)) :
    a = .classFromDict name ∨ a = .enumValue name := by
  cases a with
  | classFromDict =>
    cases front
    exact .inl rfl
  | enumValue =>
    cases front
    exact .inr rfl
  | identity | function _ | nested _ _ | union _ | typed _ _ => cases front

/-- A converter that can be told from its text where it is applied to a value, whatever follows. -/
def ToldByFront (a : Converter) : Prop :=
  ∀ ⦃b : Converter⦄ ⦃lead : Lead⦄ ⦃inside inside' r s : List Char⦄, b.Legible →
    a.front = some (lead, inside) → b.front = some (lead, inside') →
    inside ++ r = inside' ++ s → a = b ∧ r = s

/-- A converter that can be told from its text where it is written as a function. -/
def ToldByCallable (a : Converter) : Prop :=
  ∀ ⦃b : Converter⦄ ⦃r s : List Char⦄, b.Legible → Closes r → Closes s →
    a.callable.toList ++ r = b.callable.toList ++ s → a = b ∧ r = s

theorem ToldByFront.append_inj (told : a.ToldByFront) (legible : a.Legible) (legible' : b.Legible)
    {first second : Lead × List Char} (front : a.front = some first)
    (front' : b.front = some second) {r s : List Char}
    (same : first.1.text.toList ++ (first.2 ++ r) = second.1.text.toList ++ (second.2 ++ s)) :
    a = b ∧ r = s := by
  obtain ⟨lead, inside⟩ := first
  obtain ⟨lead', inside'⟩ := second
  obtain ⟨rfl, rest⟩ := Lead.append_inj (legible.plain_front front) (legible'.plain_front front')
    (breaks_of_front front r) (breaks_of_front front' s) same
  exact told legible' front front' rest

theorem behind_of_lambda (anonymous : a.lead = .lambda) :
    a.behind = " x: ".toList ++ (a.apply argument).toList := by
  cases a with
  | identity | nested _ _ | union _ | typed _ _ => rfl
  | function _ | classFromDict _ | enumValue _ => cases anonymous

theorem front_of_lambda (anonymous : a.lead = .lambda) :
    a = .identity ∨ ∃ c inside, a.front = some (.support c, inside) := by
  cases a with
  | identity => exact .inl rfl
  | nested _ _ | union _ | typed _ _ => exact .inr ⟨_, _, rfl⟩
  | function _ | classFromDict _ | enumValue _ => cases anonymous

theorem of_lead_support {c : Combinator} (calls : a.lead = .support c) : a = .function c := by
  cases a with
  | function _ =>
    cases calls
    rfl
  | identity | nested _ _ | union _ | typed _ _ | classFromDict _ | enumValue _ => cases calls

theorem of_lead_named {name : String} (calls : a.lead = .named name) :
    a = .classFromDict name ∨ a = .enumValue name := by
  cases a with
  | classFromDict _ =>
    cases calls
    exact .inl rfl
  | enumValue _ =>
    cases calls
    exact .inr rfl
  | identity | function _ | nested _ _ | union _ | typed _ _ => cases calls

theorem Closes.ne_reader {rest : List Char} (closes : Closes rest) (more : List Char) :
    rest ≠ ".from_dict".toList ++ more := by
  rintro rfl
  have mark : '.' = ',' ∨ '.' = ']' := closes '.' rfl
  exact absurd mark (by decide)

theorem argument_append_ne {c : Combinator} {inside r s : List Char} (closes : Closes r)
    (front : a.front = some (.support c, inside)) :
    argument.toList ++ r ≠ (a.apply argument).toList ++ s := by
  intro same
  rw [toList_apply, front] at same
  simp only [Lead.text, List.append_assoc] at same
  have word : IsWord argument.toList := List.all_eq_true.mp (by decide +kernel)
  obtain ⟨name, -⟩ := word_append_inj word (Lead.isWord_name c) closes.breaks
    (breaks_of_front front _) same
  have other : ∀ c ∈ Combinator.all, argument.toList ≠ c.name.toList := by decide
  exact other c c.mem_all name

theorem ToldByFront.lambda_inj (told : a.ToldByFront) (legible : a.Legible) (legible' : b.Legible)
    (anonymous : a.lead = .lambda) (anonymous' : b.lead = .lambda) {r s : List Char}
    (closes : Closes r) (closes' : Closes s)
    (same : (a.apply argument).toList ++ r = (b.apply argument).toList ++ s) : a = b ∧ r = s := by
  rcases front_of_lambda anonymous with rfl | ⟨c, inside, front⟩
  · rcases front_of_lambda anonymous' with rfl | ⟨d, inside', front'⟩
    · exact ⟨rfl, List.append_cancel_left same⟩
    · exact absurd same (argument_append_ne closes front')
  · rcases front_of_lambda anonymous' with rfl | ⟨d, inside', front'⟩
    · exact absurd same.symm (argument_append_ne closes' front)
    · rw [toList_apply, toList_apply, front, front'] at same
      simp only [List.append_assoc] at same
      obtain ⟨rfl, rest⟩ := told.append_inj legible legible' front front' same
      exact ⟨rfl, List.append_cancel_left (List.append_cancel_left rest)⟩

theorem ToldByFront.callable (told : a.ToldByFront) (legible : a.Legible) : a.ToldByCallable := by
  intro b r s legible' closes closes' same
  rw [toList_callable, toList_callable, List.append_assoc, List.append_assoc] at same
  obtain ⟨lead, rest⟩ := Lead.append_inj legible.plain_lead legible'.plain_lead
    (breaks_behind a closes) (breaks_behind b closes') same
  cases calls : a.lead with
  | lambda =>
    have calls' : b.lead = .lambda := lead.symm.trans calls
    rw [behind_of_lambda calls, behind_of_lambda calls', List.append_assoc,
      List.append_assoc] at rest
    exact told.lambda_inj legible legible' calls calls' closes closes'
      (List.append_cancel_left rest)
  | support c =>
    obtain rfl := of_lead_support calls
    obtain rfl := of_lead_support lead.symm
    exact ⟨rfl, rest⟩
  | named name =>
    rcases of_lead_named calls with rfl | rfl <;> rcases of_lead_named lead.symm with rfl | rfl
    · exact ⟨rfl, List.append_cancel_left rest⟩
    · exact absurd rest.symm (closes'.ne_reader r)
    · exact absurd rest (closes.ne_reader s)
    · exact ⟨rfl, rest⟩

/-- What follows the first member of a union, up to the bracket that closes the members. -/
def later : List Converter → List Char
  | [] => [']']
  | member :: rest => ',' :: ' ' :: (member.callable.toList ++ later rest)

theorem closes_later (members : List Converter) (rest : List Char) :
    Closes (later members ++ rest) := by
  cases members with
  | nil => exact closes_bracket rest
  | cons member others => exact closes_comma _

theorem row_nil : row [] = [']'] :=
  rfl

theorem row_cons (first : Converter) (members : List Converter) :
    row (first :: members) = first.callable.toList ++ later members := by
  induction members generalizing first with
  | nil => simp [row, later, callables_eq_map]
  | cons second rest ih =>
    have others := ih second
    simp only [row, callables_eq_map, List.map_cons] at others ⊢
    simp [String.intercalate_cons_cons, later, ← others]

theorem later_append_inj {members others : List Converter}
    (each : ∀ member ∈ members, member.ToldByCallable) (each' : ∀ other ∈ others, other.Legible)
    {r s : List Char} (same : later members ++ r = later others ++ s) :
    members = others ∧ r = s := by
  induction members generalizing others with
  | nil =>
    cases others with
    | nil => exact ⟨rfl, List.append_cancel_left same⟩
    | cons other rest => exact absurd (List.cons.inj same).1 (by decide)
  | cons member members ih =>
    cases others with
    | nil => exact absurd (List.cons.inj same).1 (by decide)
    | cons other others =>
      simp only [later, List.cons_append, List.append_assoc, List.cons.injEq, true_and] at same
      obtain ⟨rfl, rest⟩ := each member List.mem_cons_self (each' other List.mem_cons_self)
        (closes_later _ _) (closes_later _ _) same
      obtain ⟨rfl, end'⟩ := ih (fun one among => each one (List.mem_cons_of_mem _ among))
        (fun one among => each' one (List.mem_cons_of_mem _ among)) rest
      exact ⟨rfl, end'⟩

theorem Legible.callable_append_ne (legible : a.Legible) {r : List Char} (closes : Closes r)
    (s : List Char) : a.callable.toList ++ r ≠ ']' :: s := by
  intro same
  rw [toList_callable, List.append_assoc] at same
  have nothing : IsWord [] := nofun
  obtain ⟨empty, -⟩ := word_append_inj (Lead.isWord_text legible.plain_lead) nothing
    (breaks_behind a closes) (closes_bracket s).breaks same
  exact Lead.text_ne_empty legible.plain_lead (String.toList_eq_nil_iff.mp empty)

theorem row_append_inj {members others : List Converter}
    (legible : ∀ member ∈ members, member.Legible)
    (each : ∀ member ∈ members, member.ToldByCallable) (legible' : ∀ other ∈ others, other.Legible)
    {r s : List Char} (same : row members ++ r = row others ++ s) : members = others ∧ r = s := by
  cases members with
  | nil =>
    cases others with
    | nil => exact ⟨rfl, List.append_cancel_left same⟩
    | cons other others =>
      rw [row_nil, row_cons, List.append_assoc] at same
      exact absurd same.symm
        ((legible' other List.mem_cons_self).callable_append_ne (closes_later others s) r)
  | cons member members =>
    cases others with
    | nil =>
      rw [row_nil, row_cons, List.append_assoc] at same
      exact absurd same
        ((legible member List.mem_cons_self).callable_append_ne (closes_later members r) s)
    | cons other others =>
      rw [row_cons, row_cons, List.append_assoc, List.append_assoc] at same
      obtain ⟨rfl, rest⟩ := each member List.mem_cons_self (legible' other List.mem_cons_self)
        (closes_later members r) (closes_later others s) same
      obtain ⟨rfl, end'⟩ := later_append_inj
        (fun one among => each one (List.mem_cons_of_mem _ among))
        (fun one among => legible' one (List.mem_cons_of_mem _ among)) rest
      exact ⟨rfl, end'⟩

/-- Where two fronts are the same they start with the same word, which says how either converter is put
together; the parts inside the brackets are told apart by induction. -/
theorem Legible.toldByFront (legible : a.Legible) : a.ToldByFront := by
  induction legible with
  | identity => nofun
  | function role =>
    intro b _ _ _ r s legible' front front' same
    cases front
    have shape := legible'.of_support front'
    rw [role] at shape
    subst shape
    cases front'
    exact ⟨rfl, List.append_cancel_left same⟩
  | @nested c inner role legible ih =>
    intro b _ _ _ r s legible' front front' same
    cases front
    have shape := legible'.of_support front'
    rw [role] at shape
    obtain ⟨other, plain, rfl⟩ := shape
    cases front'
    simp only [List.cons_append, List.append_assoc, List.cons.injEq, true_and] at same
    obtain ⟨rfl, rest⟩ := ih.callable legible plain (closes_comma _) (closes_comma _) same
    exact ⟨rfl, by simpa using rest⟩
  | @union members legible ih =>
    intro b _ _ _ r s legible' front front' same
    cases front
    obtain ⟨others, plain, rfl⟩ := legible'.of_support front'
    cases front'
    simp only [List.cons_append, List.append_assoc, List.cons.injEq, true_and] at same
    have each : ∀ member ∈ members, member.ToldByCallable := fun member among =>
      (ih member among).callable (legible member among)
    obtain ⟨rfl, rest⟩ := row_append_inj legible each plain same
    exact ⟨rfl, by simpa using rest⟩
  | @classFromDict name plain =>
    intro b _ _ _ r s legible' front front' same
    cases front
    rcases of_named front' with rfl | rfl
    · cases front'
      exact ⟨rfl, List.append_cancel_left same⟩
    · cases front'
      exact absurd (List.cons.inj same).1 (by decide)
  | @enumValue name plain =>
    intro b _ _ _ r s legible' front front' same
    cases front
    rcases of_named front' with rfl | rfl
    · cases front'
      exact absurd (List.cons.inj same).1 (by decide)
    · cases front'
      exact ⟨rfl, List.append_cancel_left same⟩
  | @typed c name role plain =>
    intro b _ _ _ r s legible' front front' same
    cases front
    have shape := legible'.of_support front'
    rw [role] at shape
    obtain ⟨other, plain', rfl⟩ := shape
    cases front'
    simp only [List.cons_append, List.append_assoc, List.cons.injEq, true_and] at same
    obtain ⟨word, rest⟩ := word_append_inj plain.word plain'.word
      (closes_comma _).breaks (closes_comma _).breaks same
    obtain rfl := String.toList_injective word
    exact ⟨rfl, by simpa using rest⟩

theorem Legible.toldByCallable (legible : a.Legible) : a.ToldByCallable :=
  legible.toldByFront.callable legible

theorem Legible.callable_inj (legible : a.Legible) (legible' : b.Legible)
    (same : a.callable = b.callable) : a = b := by
  have texts : a.callable.toList ++ [] = b.callable.toList ++ [] := by rw [same]
  exact (legible.toldByCallable legible' closes_nil closes_nil texts).1

theorem apply_ne_of_front {value : String} {lead : Lead} {inside : List Char}
    (front : a.front = some (lead, inside)) : a.apply value ≠ value := by
  intro same
  have lengths := congrArg List.length (congrArg String.toList same)
  rw [toList_apply, front] at lengths
  simp only [List.length_append, List.length_cons] at lengths
  omega

theorem front_eq_none_iff : a.front = none ↔ a = .identity := by
  cases a <;> simp [front]

theorem Legible.apply_inj (legible : a.Legible) (legible' : b.Legible) {value : String}
    (same : a.apply value = b.apply value) : a = b := by
  cases front : a.front with
  | none =>
    obtain rfl := front_eq_none_iff.mp front
    cases front' : b.front with
    | none => exact (front_eq_none_iff.mp front').symm
    | some _ => exact absurd same.symm (apply_ne_of_front front')
  | some _ =>
    cases front' : b.front with
    | none =>
      obtain rfl := front_eq_none_iff.mp front'
      exact absurd same (apply_ne_of_front front)
    | some _ =>
      have texts := congrArg String.toList same
      rw [toList_apply, toList_apply, front, front'] at texts
      exact (legible.toldByFront.append_inj legible legible' front front' texts).1

end Converter

theorem Converter.Formed.legible {g : Graph} (plain : g.NamesPlain) {c : Converter}
    (formed : c.Formed g) : c.Legible := by
  induction formed with
  | identity => exact .identity
  | function role => exact .function role
  | nested role _ ih => exact .nested role ih
  | union _ ih => exact .union ih
  | classFromDict found named => exact .classFromDict (plain.of_get? found named)
  | enumValue found named => exact .enumValue (plain.of_get? found named)
  | typed role found named => exact .typed role (plain.of_get? found named)

namespace Graph

variable {g : Graph}

/-- The converters of the types and properties that stand in a graph, in either direction. -/
inductive Converts (g : Graph) : Converter → Prop
  | type {d : Direction} {id : TypeId} {l : Location} {c : Converter} :
      (g.converter d id l).outcome = .ok c → Converts g c
  | property {d : Direction} {property : Property} {l : Location} {c : Converter} :
      (g.propertyConverter d property l).outcome = .ok c → Converts g c

theorem Converts.legible (plain : g.NamesPlain) {c : Converter} (built : g.Converts c) :
    c.Legible := by
  cases built with
  | @type d id _ _ given =>
    rw [outcome_converter] at given
    obtain ⟨-, rfl⟩ := eq_of_faultOr_eq_ok given
    exact (g.formed_converterTree d id).legible plain
  | @property d property _ _ given =>
    rw [outcome_propertyConverter] at given
    obtain ⟨-, rfl⟩ := eq_of_faultOr_eq_ok given
    exact (g.formed_propertyConverterTree d property).legible plain

/-- Where the names of classes and enums are plain, the text of a converter is that of no other one:
neither where the converter is applied, whatever the value, nor where it is written as a function,
nor where such a function stands in front of a comma or a bracket and any text goes on. It makes no
difference which graphs, types or properties the converters are of, nor which way they go. -/
theorem text_determines_converter {g h : Graph} (plain : g.NamesPlain) (plain' : h.NamesPlain)
    {a b : Converter} (built : g.Converts a) (built' : h.Converts b) :
    (∀ value, a.apply value = b.apply value → a = b) ∧
      (a.callable = b.callable → a = b) ∧
      ∀ rest rest', Converter.Closes rest → Converter.Closes rest' →
        a.callable.toList ++ rest = b.callable.toList ++ rest' → a = b ∧ rest = rest' := by
  have legible := built.legible plain
  have legible' := built'.legible plain'
  refine ⟨?_, ?_, ?_⟩
  · intro value same
    exact legible.apply_inj legible' same
  · intro same
    exact legible.callable_inj legible' same
  · intro rest rest' closes closes' same
    exact legible.toldByCallable legible' closes closes' same

/-- Two unions of the same three types, which differ in what is nested in what. -/
def regrouped : Graph :=
  ⟨#[.union [⟨2⟩, ⟨4⟩], .union [⟨3⟩, ⟨5⟩], .primitive .integer, .primitive .string,
    .union [⟨3⟩, ⟨6⟩], .union [⟨2⟩, ⟨6⟩], .classType ⟨"Page", .empty⟩]⟩

theorem regrouped_told_apart :
    regrouped.NamesPlain ∧
      ∃ a b, (regrouped.converter .fromJson ⟨0⟩ ⟨.entryPoint "Test", []⟩).outcome = .ok a ∧
      (regrouped.propertyConverter .fromJson ⟨"page", ⟨1⟩, false⟩
        ⟨.entryPoint "Test", []⟩).outcome = .ok b ∧
      a.callable = "lambda x: from_union([from_int, " ++
        "lambda x: from_union([from_str, Page.from_dict], x)], x)" ∧
      ∀ value, a.apply value ≠ b.apply value := by
  let a : Converter :=
    .union [.function .fromInt, .union [.function .fromStr, .classFromDict "Page"]]
  let b : Converter :=
    .union [.function .fromStr, .union [.function .fromInt, .classFromDict "Page"]]
  have plain : regrouped.NamesPlain := by decide +kernel
  have given : (regrouped.converter .fromJson ⟨0⟩ ⟨.entryPoint "Test", []⟩).outcome = .ok a := rfl
  have given' : (regrouped.propertyConverter .fromJson ⟨"page", ⟨1⟩, false⟩
      ⟨.entryPoint "Test", []⟩).outcome = .ok b := rfl
  refine ⟨plain, a, b, given, given', by decide, ?_⟩
  intro value same
  have distinct : a ≠ b := by simp [a, b]
  exact distinct ((text_determines_converter plain plain (.type given)
    (.property given')).1 value same)

end Graph

end JsonBinding
