import TreePath.Proofs.Dict
import TreePath.Proofs.Grammar.Form

/-!
# What the built-in handlers read

The handlers that the built-in registry finds under a name, and for each role: a name and
arguments are read as a directive exactly if the grammar says that the handler of that name takes
those arguments.
-/

namespace TreePath

open Grammar Handler

/-! ## Lookups -/

theorem ofList_eq_iff {s : String} {text : List Char} :
    String.ofList text = s ↔ text = s.toList := by
  constructor
  · rintro rfl
    exact String.toList_ofList.symm
  · rintro rfl
    exact String.ofList_toList

namespace Registry

theorem select?_builtin {name : String} {s : Select} :
    builtin.select? name = some s ↔
      (name, s) ∈ [("last", Select.last), ("each", .each), ("eachr", .eachReversed),
        ("match", .matching)] := by
  have hselects : builtin.selects = [("last", .last), ("each", .each), ("eachr", .eachReversed),
    ("match", .matching)] := rfl
  rw [select?, hselects, Dict.get?_eq_some_iff_mem (by decide)]

/-- A name is that of a predicate, and with a tilde in front of it that of its negation. -/
theorem predicate?_builtin {negated : Bool} {name : List Char}
    (htilde : negated = false → name.head? ≠ some '~') {p : Predicate} :
    builtin.predicate? (String.ofList (if negated then '~' :: name else name)) = some p ↔
      ∃ q, p = (if negated then q.negation else q) ∧
        (String.ofList name, q) ∈ [("containsKey", Predicate.containsKey),
          ("containsValue", .containsValue), ("isEmpty", .isEmpty), ("eq", .equalTo)] := by
  have hpredicates : builtin.predicates = [("~containsKey", Predicate.containsKey.negation),
    ("containsKey", .containsKey), ("~containsValue", Predicate.containsValue.negation),
    ("containsValue", .containsValue), ("~isEmpty", Predicate.isEmpty.negation),
    ("isEmpty", .isEmpty), ("~eq", Predicate.equalTo.negation), ("eq", .equalTo)] := rfl
  rw [predicate?, hpredicates, Dict.get?_eq_some_iff_mem (by decide)]
  cases negated with
  | true =>
    simp [ofList_eq_iff, -String.ofList_cons]
    grind
  | false =>
    have hne (rest : List Char) : name ≠ '~' :: rest := by
      rintro rfl
      exact htilde rfl rfl
    simp [ofList_eq_iff, hne]

theorem operation?_builtin {name : String} {o : Operation} :
    builtin.operation? name = some o ↔
      (name, o) ∈ [("set", Operation.set), ("setIfAbsent", .setIfAbsent), ("unset", .unset),
        ("append", .append), ("appendIfAbsent", .appendIfAbsent), ("clear", .clear),
        ("times", .times)] := by
  have hoperations : builtin.operations = [("set", .set), ("setIfAbsent", .setIfAbsent),
    ("unset", .unset), ("append", .append), ("appendIfAbsent", .appendIfAbsent),
    ("clear", .clear), ("times", .times)] := rfl
  rw [operation?, hoperations, Dict.get?_eq_some_iff_mem (by decide)]

end Registry

/-! ## Arguments -/

variable {arguments : Option (List Char)} {name source what : String} {d : Directive}

theorem presentArguments?_eq_none :
    presentArguments? (arguments.map String.ofList) = none ↔ Vacant arguments := by
  cases arguments <;> simp [presentArguments?, Vacant, Option.filter]

theorem presentArguments?_eq_some {text : String} :
    presentArguments? (arguments.map String.ofList) = some text ↔
      ∃ inner, arguments = some inner ∧ ¬ Text.isBlank inner ∧ text = String.ofList inner := by
  cases arguments with
  | none => simp [presentArguments?]
  | some inner =>
    simp only [presentArguments?, Option.map_some, Option.filter_some, String.toList_ofList]
    grind

theorem readBare_eq_ok :
    readBare name source (arguments.map String.ofList) = .ok d ↔
      Vacant arguments ∧ d = ⟨source, some name, .none⟩ := by
  rw [← presentArguments?_eq_none]
  simp only [readBare, rejectArguments]
  cases presentArguments? (arguments.map String.ofList) <;> simp [Except.map, eq_comm]

theorem requireArguments_eq_ok {text : String} :
    requireArguments source (arguments.map String.ofList) what = .ok text ↔
      ∃ inner, arguments = some inner ∧ ¬ Text.isBlank inner ∧ text = String.ofList inner := by
  rw [← presentArguments?_eq_some]
  simp only [requireArguments]
  cases presentArguments? (arguments.map String.ofList) <;> simp

/-! ## Bare keys -/

theorem Text.natural?_eq_some {text : List Char} {n : Nat} :
    Text.natural? text = some n ↔
      text ≠ [] ∧ (∀ c ∈ text, c.isDigit) ∧ Nat.ofDigitChars 10 text 0 = n := by
  simp only [Text.natural?, Bool.or_eq_true, List.isEmpty_iff, Bool.not_eq_true', List.all_eq_false]
  grind

theorem Text.naturalBelow?_eq_some {limit n : Nat} {text : List Char} :
    Text.naturalBelow? limit text = some n ↔
      ∃ digits, (text = digits ∨ text = '+' :: digits) ∧ digits ≠ [] ∧ (∀ c ∈ digits, c.isDigit) ∧
        Nat.ofDigitChars 10 digits 0 = n ∧ n < limit := by
  have hplus (rest : List Char) : ¬ ∀ c ∈ '+' :: rest, c.isDigit := by
    intro h
    exact absurd (h '+' List.mem_cons_self) (by decide)
  simp only [Text.naturalBelow?, Option.filter_eq_some_iff, Text.natural?_eq_some,
    decide_eq_true_eq]
  constructor
  · rintro ⟨⟨hne, hdigits, hval⟩, hlt⟩
    refine ⟨_, ?_, hne, hdigits, hval, hlt⟩
    split <;> simp
  · rintro ⟨digits, rfl | rfl, hne, hdigits, hval, hlt⟩
    · split
      · next rest => exact absurd hdigits (hplus rest)
      · exact ⟨⟨hne, hdigits, hval⟩, hlt⟩
    · exact ⟨⟨hne, hdigits, hval⟩, hlt⟩

theorem Select.isIdentifier_iff {text : List Char} : Select.isIdentifier text ↔ IsName text := by
  cases text with
  | nil => simp [Select.isIdentifier, IsName]
  | cons c rest => simp [Select.isIdentifier, IsName]

theorem Select.readLiteral_isOk {key : List Char} :
    (∃ d, Select.readLiteral (String.ofList key) none = .ok d) ↔ IsPosition key ∨ IsName key := by
  have hposition : IsPosition key ↔ ∃ n, Text.naturalBelow? (Nat.pow 2 64) key = some n := by
    simp only [IsPosition, Text.naturalBelow?_eq_some]
    constructor
    · rintro ⟨digits, htext, hne, hdigits, hlt⟩
      exact ⟨_, digits, htext, hne, hdigits, rfl, hlt⟩
    · rintro ⟨_, digits, htext, hne, hdigits, rfl, hlt⟩
      exact ⟨digits, htext, hne, hdigits, hlt⟩
  rw [hposition, ← Select.isIdentifier_iff]
  simp only [Select.readLiteral, Select.literalKey?, String.toList_ofList]
  cases Text.naturalBelow? (Nat.pow 2 64) key with
  | some n => simp
  | none => cases Select.isIdentifier key <;> simp

/-! ## Handlers -/

theorem Select.readMatching_isOk :
    (∃ d, Select.readMatching source (arguments.map String.ofList) = .ok d) ↔
      ∃ text p, arguments = some text ∧ ¬ Text.isBlank text ∧
        Pattern.ofText (Pattern.anchoredText (String.ofList text)) = .ok p := by
  simp only [Select.readMatching, bind_eq_ok, requireArguments_eq_ok]
  constructor
  · rintro ⟨d, _, ⟨text, rfl, hpresent, rfl⟩, h⟩
    split at h
    · next p hp => exact ⟨text, p, rfl, hpresent, hp⟩
    · cases h
  · rintro ⟨text, p, rfl, hpresent, hp⟩
    exact ⟨_, _, ⟨text, rfl, hpresent, rfl⟩, by rw [hp]⟩

theorem Predicate.readText_isOk :
    (∃ d, Predicate.readText name what source (arguments.map String.ofList) = .ok d) ↔
      ∃ text, arguments = some text ∧ ¬ Text.isBlank text := by
  simp only [Predicate.readText, map_eq_ok, requireArguments_eq_ok]
  grind

/-- There is a comma if leaving out what stands before the first one leaves something. -/
theorem dropWhile_ne_comma {text : List Char} :
    (∃ rest, text.dropWhile (· != ',') = ',' :: rest) ↔ ',' ∈ text := by
  induction text with
  | nil => simp
  | cons c rest ih =>
    by_cases h : c = ','
    · simp [h]
    · simp [h, ih, Ne.symm h]

theorem Predicate.readPair_isOk :
    (∃ d, Predicate.readPair source (arguments.map String.ofList) = .ok d) ↔
      ∃ text, arguments = some text ∧ ¬ Text.isBlank text ∧ ',' ∈ text := by
  simp only [Predicate.readPair, bind_eq_ok, requireArguments_eq_ok]
  constructor
  · rintro ⟨d, _, ⟨text, rfl, hpresent, rfl⟩, h⟩
    split at h
    · next rest hrest =>
      rw [String.toList_ofList] at hrest
      exact ⟨text, rfl, hpresent, dropWhile_ne_comma.mp ⟨rest, hrest⟩⟩
    · cases h
  · rintro ⟨text, rfl, hpresent, hcomma⟩
    obtain ⟨rest, hrest⟩ := dropWhile_ne_comma.mpr hcomma
    exact ⟨_, _, ⟨text, rfl, hpresent, rfl⟩, by rw [String.toList_ofList, hrest]; rfl⟩

theorem Operation.readLiteral_isOk :
    (∃ d, Operation.readLiteral name source (arguments.map String.ofList) = .ok d) ↔
      ∃ text v, arguments = some text ∧ ¬ Text.isBlank text ∧
        Literal.decode (String.ofList text) = .ok v := by
  simp only [Operation.readLiteral, bind_eq_ok, map_eq_ok, requireArguments_eq_ok]
  grind

theorem Operation.readFactor_isOk :
    (∃ d, Operation.readFactor source (arguments.map String.ofList) = .ok d) ↔
      ∃ text, ∃ x : Binary .double, arguments = some text ∧ ¬ Text.isBlank text ∧
        Decimal.read? (Text.trim text) = some x := by
  simp only [Operation.readFactor, bind_eq_ok, requireArguments_eq_ok]
  constructor
  · rintro ⟨d, _, ⟨text, rfl, hpresent, rfl⟩, h⟩
    split at h
    · next x hx =>
      rw [String.toList_ofList] at hx
      exact ⟨text, x, rfl, hpresent, hx⟩
    · cases h
  · rintro ⟨text, x, rfl, hpresent, hx⟩
    exact ⟨_, _, ⟨text, rfl, hpresent, rfl⟩, by rw [String.toList_ofList, hx]⟩

/-! ## The grammar of arguments -/

theorem takes_select_iff :
    Takes .select name arguments ↔
      ∃ s d, Registry.builtin.select? name = some s ∧
        s.read source (arguments.map String.ofList) = .ok d := by
  constructor
  · intro h
    cases h with
    | bareSelect known vacant =>
      have hread (n : String) : ∃ d, readBare n source (arguments.map String.ofList) = .ok d :=
        ⟨_, readBare_eq_ok.mpr ⟨vacant, rfl⟩⟩
      simp only [List.mem_cons, List.not_mem_nil, or_false] at known
      rcases known with rfl | rfl | rfl
      · exact ⟨.last, (hread _).imp fun _ hd => ⟨rfl, hd⟩⟩
      · exact ⟨.each, (hread _).imp fun _ hd => ⟨rfl, hd⟩⟩
      · exact ⟨.eachReversed, (hread _).imp fun _ hd => ⟨rfl, hd⟩⟩
    | matching present compiles =>
      exact ⟨.matching, (Select.readMatching_isOk.mpr ⟨_, _, rfl, present, compiles⟩).imp
        fun _ hd => ⟨rfl, hd⟩⟩
  · rintro ⟨s, d, hs, hd⟩
    have hmem := Registry.select?_builtin.mp hs
    simp only [List.mem_cons, Prod.mk.injEq, List.not_mem_nil, or_false] at hmem
    rcases hmem with ⟨rfl, rfl⟩ | ⟨rfl, rfl⟩ | ⟨rfl, rfl⟩ | ⟨rfl, rfl⟩
    · exact .bareSelect (by decide) (readBare_eq_ok.mp hd).1
    · exact .bareSelect (by decide) (readBare_eq_ok.mp hd).1
    · exact .bareSelect (by decide) (readBare_eq_ok.mp hd).1
    · obtain ⟨text, p, rfl, hpresent, hp⟩ := Select.readMatching_isOk.mp ⟨d, hd⟩
      exact .matching hpresent hp

/-- A predicate and its negation take the same arguments. -/
theorem negation_isOk {q : Predicate} {negated : Bool} {arguments : Option String} :
    (∃ d, (if negated then q.negation else q).read source arguments = .ok d) ↔
      ∃ d, q.read source arguments = .ok d := by
  cases negated with
  | false => rfl
  | true => simp [Predicate.negation, map_eq_ok]

/-- A predicate that is negated or not is found and read like the predicate under the tilde. -/
theorem predicate_isOk {name : List Char} {negated : Bool} {arguments : Option String}
    (htilde : negated = false → name.head? ≠ some '~') :
    (∃ p d, Registry.builtin.predicate? (String.ofList (if negated then '~' :: name else name)) =
          some p ∧ p.read source arguments = .ok d) ↔
      ∃ q, (String.ofList name, q) ∈ [("containsKey", Predicate.containsKey),
          ("containsValue", .containsValue), ("isEmpty", .isEmpty), ("eq", .equalTo)] ∧
        ∃ d, q.read source arguments = .ok d := by
  simp only [Registry.predicate?_builtin htilde]
  constructor
  · rintro ⟨_, d, ⟨q, rfl, hq⟩, hd⟩
    exact ⟨q, hq, negation_isOk.mp ⟨d, hd⟩⟩
  · rintro ⟨q, hq, hd⟩
    obtain ⟨d, hd⟩ := negation_isOk.mpr hd
    exact ⟨_, d, ⟨q, rfl, hq⟩, hd⟩

theorem takes_predicate_iff {name : List Char} {negated : Bool}
    (htilde : negated = false → name.head? ≠ some '~') :
    Takes .predicate (String.ofList name) arguments ↔
      ∃ p d, Registry.builtin.predicate? (String.ofList (if negated then '~' :: name else name)) =
          some p ∧
        p.read source (arguments.map String.ofList) = .ok d := by
  rw [predicate_isOk htilde]
  generalize String.ofList name = name
  constructor
  · intro h
    cases h with
    | isEmpty vacant => exact ⟨.isEmpty, by simp, _, readBare_eq_ok.mpr ⟨vacant, rfl⟩⟩
    | textPredicate known present =>
      simp only [List.mem_cons, List.not_mem_nil, or_false] at known
      rcases known with rfl | rfl
      · exact ⟨.containsKey, by simp, Predicate.readText_isOk.mpr ⟨_, rfl, present⟩⟩
      · exact ⟨.containsValue, by simp, Predicate.readText_isOk.mpr ⟨_, rfl, present⟩⟩
    | equalTo present comma =>
      exact ⟨.equalTo, by simp, Predicate.readPair_isOk.mpr ⟨_, rfl, present, comma⟩⟩
  · rintro ⟨q, hq, hd⟩
    simp only [List.mem_cons, Prod.mk.injEq, List.not_mem_nil, or_false] at hq
    rcases hq with ⟨rfl, rfl⟩ | ⟨rfl, rfl⟩ | ⟨rfl, rfl⟩ | ⟨rfl, rfl⟩
    · obtain ⟨text, rfl, hpresent⟩ := Predicate.readText_isOk.mp hd
      exact .textPredicate (by decide) hpresent
    · obtain ⟨text, rfl, hpresent⟩ := Predicate.readText_isOk.mp hd
      exact .textPredicate (by decide) hpresent
    · obtain ⟨d, hd⟩ := hd
      exact .isEmpty (readBare_eq_ok.mp hd).1
    · obtain ⟨text, rfl, hpresent, hcomma⟩ := Predicate.readPair_isOk.mp hd
      exact .equalTo hpresent hcomma

theorem takes_operation_iff :
    Takes .operation name arguments ↔
      ∃ o d, Registry.builtin.operation? name = some o ∧
        o.read source (arguments.map String.ofList) = .ok d := by
  constructor
  · intro h
    cases h with
    | bareOperation known vacant =>
      simp only [List.mem_cons, List.not_mem_nil, or_false] at known
      rcases known with rfl | rfl
      · exact ⟨.unset, _, rfl, readBare_eq_ok.mpr ⟨vacant, rfl⟩⟩
      · exact ⟨.clear, _, rfl, readBare_eq_ok.mpr ⟨vacant, rfl⟩⟩
    | valueOperation known present decodes =>
      have hread (n : String) : ∃ d, Operation.readLiteral n source _ = .ok d :=
        Operation.readLiteral_isOk.mpr ⟨_, _, rfl, present, decodes⟩
      simp only [List.mem_cons, List.not_mem_nil, or_false] at known
      rcases known with rfl | rfl | rfl | rfl
      · exact ⟨.set, (hread _).imp fun _ hd => ⟨rfl, hd⟩⟩
      · exact ⟨.setIfAbsent, (hread _).imp fun _ hd => ⟨rfl, hd⟩⟩
      · exact ⟨.append, (hread _).imp fun _ hd => ⟨rfl, hd⟩⟩
      · exact ⟨.appendIfAbsent, (hread _).imp fun _ hd => ⟨rfl, hd⟩⟩
    | times present number =>
      exact ⟨.times, (Operation.readFactor_isOk.mpr ⟨_, _, rfl, present, number⟩).imp
        fun _ hd => ⟨rfl, hd⟩⟩
  · rintro ⟨o, d, ho, hd⟩
    have hmem := Registry.operation?_builtin.mp ho
    simp only [List.mem_cons, Prod.mk.injEq, List.not_mem_nil, or_false] at hmem
    rcases hmem with ⟨rfl, rfl⟩ | ⟨rfl, rfl⟩ | ⟨rfl, rfl⟩ | ⟨rfl, rfl⟩ | ⟨rfl, rfl⟩ |
      ⟨rfl, rfl⟩ | ⟨rfl, rfl⟩
    · obtain ⟨text, v, rfl, hpresent, hv⟩ := Operation.readLiteral_isOk.mp ⟨d, hd⟩
      exact .valueOperation (by decide) hpresent hv
    · obtain ⟨text, v, rfl, hpresent, hv⟩ := Operation.readLiteral_isOk.mp ⟨d, hd⟩
      exact .valueOperation (by decide) hpresent hv
    · exact .bareOperation (by decide) (readBare_eq_ok.mp hd).1
    · obtain ⟨text, v, rfl, hpresent, hv⟩ := Operation.readLiteral_isOk.mp ⟨d, hd⟩
      exact .valueOperation (by decide) hpresent hv
    · obtain ⟨text, v, rfl, hpresent, hv⟩ := Operation.readLiteral_isOk.mp ⟨d, hd⟩
      exact .valueOperation (by decide) hpresent hv
    · exact .bareOperation (by decide) (readBare_eq_ok.mp hd).1
    · obtain ⟨text, x, rfl, hpresent, hx⟩ := Operation.readFactor_isOk.mp ⟨d, hd⟩
      exact .times hpresent hx

end TreePath
