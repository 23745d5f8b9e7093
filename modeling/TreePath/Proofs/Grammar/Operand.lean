import TreePath.Proofs.Grammar.Complete
import TreePath.Proofs.Registry.Assembled

/-!
# Operations behind a path

The text of an operation is the name of its handler and, in brackets, its operand. Behind the text
of a path it is read on its own: the command is read exactly if the operation is, and its operation
is what the text of the operation alone is read as. The operations that write a value have for
their operand the value of the literal between the brackets.
-/

namespace TreePath

namespace Grammar

variable {separator : Char} {name text rest first : List Char} {parts : List (List Char)}
  {next : Scan} {c : Call}

/-- A text in which nothing separates is the first part of what it begins, up to a separator, and
behind the separator the cut goes on by itself. -/
theorem split_append_separator (hclose : separator ≠ ')')
    (hstep : Scan.start.step separator = some next)
    (hwhole : Scan.start.through separator text = some .start)
    (h : split separator (text ++ separator :: rest) = .ok (first, parts)) :
    first = text ∧ ∃ part others, parts = part :: others ∧
      splitFrom separator next rest = .ok (part, others) := by
  rw [split_append hclose hstep hwhole] at h
  obtain ⟨⟨part, others⟩, hrest, heq⟩ := map_eq_ok.mp h
  obtain ⟨rfl, rfl⟩ := Prod.mk.inj heq
  exact ⟨rfl, part, others, rfl, hrest⟩

/-- A call has the name that stands in front of its first bracket. -/
theorem name_of_splitCall (hname : Scan.start.through '(' name = some .start)
    (h : splitCall (name ++ '(' :: rest) = .ok c) : c.name = name := by
  obtain ⟨⟨first, parts⟩, hopen, h⟩ := bind_eq_ok.mp h
  obtain ⟨rfl, group, others, rfl, -⟩ :=
    split_append_separator (by decide) Scan.step_open hname hopen
  cases others with
  | nil =>
    obtain ⟨⟨inside, closed⟩, -, h⟩ := bind_eq_ok.mp h
    split at h <;> cases h
    rfl
  | cons => cases h

end Grammar

open Grammar

/-- A text that may stand for a value between the brackets of an operation. -/
structure Literal.StandsFor (argument : String) (v : Value) : Prop where
  present : Text.isBlank argument.toList = false
  balanced : Balanced argument.toList
  decoded : Literal.decode argument = .ok v

/-- The names of the operations that write a value. -/
def Operation.writing : List String := ["set", "setIfAbsent", "append", "appendIfAbsent"]

namespace Registry

variable {path operation name argument : String} {segments : List Segment} {d : Directive}
  {c : Command} {o : Operation} {v : Value}

/-- A built-in operation names its directives as it is called in the text. -/
theorem name_of_parseOperation (hname : IsWord name.toList)
    (h : builtin.parseOperation (name ++ "(" ++ argument ++ ")") = .ok d) :
    d.name = some name := by
  have htext : (name ++ "(" ++ argument ++ ")").toList =
      name.toList ++ '(' :: (argument.toList ++ [')']) := by
    simp
  have hwhole : Whole ['('] name.toList := hname.whole rfl
  rw [parseOperation, htext, readOperation] at h
  split at h
  · cases h
  · obtain ⟨call, hcall, h⟩ := seq_eq_ok.mp h
    rw [scanned_eq_ok] at hcall
    rw [name_of_splitCall (hwhole '(' List.mem_cons_self) hcall, String.ofList_toList] at h
    split at h
    · next o ho =>
      obtain ⟨hlibrary, rfl⟩ := assembled_builtin.stocked.operations name o ho
      exact (Operation.serves_of_library hlibrary _ _ d h).1
    · cases h

/-- The text of an accepted call is read by the operation of its name. -/
theorem parseOperation_of_call {text : String} {call : Call} (htext : text.toList = call.text)
    (h : call.Accepted .operation) (ho : builtin.operation? (String.ofList call.name) = some o)
    (hd : o.read text (call.arguments.map String.ofList) = .ok d) :
    builtin.parseOperation text = .ok d := by
  rw [parseOperation, htext]
  refine readOperation_text h ⟨o, ho, ?_⟩
  rwa [← htext, String.ofList_toList]

/-- An operation that writes a value is read with the value of the literal in its brackets. -/
theorem parseOperation_writing (name : String) (hname : name ∈ Operation.writing)
    (h : Literal.StandsFor argument v) :
    builtin.parseOperation (name ++ "(" ++ argument ++ ")") =
      .ok ⟨name ++ "(" ++ argument ++ ")", some name, .value v⟩ := by
  have htext : (name ++ "(" ++ argument ++ ")").toList =
      Call.text ⟨name.toList, some argument.toList⟩ := by
    simp [Call.text]
  have haccepted : Call.Accepted .operation ⟨name.toList, some argument.toList⟩ := by
    refine ⟨?_, fun _ h' => Option.some.inj h' ▸ h.balanced⟩
    rw [String.ofList_toList]
    exact .valueOperation hname (by simp [h.present])
      (by rw [String.ofList_toList]; exact h.decoded)
  have harguments : Handler.presentArguments? (some argument) = some argument := by
    rw [Handler.presentArguments?, Option.filter_some, h.present]
    rfl
  have hread (source name : String) : Operation.readLiteral name source
      (some (String.ofList argument.toList)) = .ok ⟨source, some name, .value v⟩ := by
    simp only [Operation.readLiteral, Handler.requireArguments, String.ofList_toList, harguments,
      Except.bind, h.decoded, Except.map]
  simp only [Operation.writing, List.mem_cons, List.not_mem_nil, or_false] at hname
  rcases hname with rfl | rfl | rfl | rfl
  · exact parseOperation_of_call (o := .set) htext haccepted rfl (hread _ _)
  · exact parseOperation_of_call (o := .setIfAbsent) htext haccepted rfl (hread _ _)
  · exact parseOperation_of_call (o := .append) htext haccepted rfl (hread _ _)
  · exact parseOperation_of_call (o := .appendIfAbsent) htext haccepted rfl (hread _ _)

/-- An operation that takes no operand is read without brackets. -/
theorem parseOperation_bare (name : String) (hname : name ∈ ["unset", "clear"]) :
    builtin.parseOperation name = .ok ⟨name, some name, .none⟩ := by
  have htext : name.toList = Call.text ⟨name.toList, none⟩ := by
    simp [Call.text]
  have haccepted : Call.Accepted .operation ⟨name.toList, none⟩ := by
    refine ⟨?_, fun _ h => by cases h⟩
    rw [String.ofList_toList]
    exact .bareOperation hname fun _ h => by cases h
  simp only [List.mem_cons, List.not_mem_nil, or_false] at hname
  rcases hname with rfl | rfl
  · exact parseOperation_of_call (o := .unset) htext haccepted rfl rfl
  · exact parseOperation_of_call (o := .clear) htext haccepted rfl rfl

/-- A command behind an accepted path is read with the operation that follows the path. -/
theorem operation_of_parseCommand (hpath : builtin.parsePath path = .ok segments)
    (h : builtin.parseCommand (path ++ "!" ++ operation) = .ok c) :
    ∃ d, builtin.parseOperation operation = .ok d ∧ c = ⟨segments, some d⟩ := by
  obtain ⟨forms, hne, hpathText, hreads, hforms⟩ := forms_of_readPath rfl hpath
  have haccepted : CommandForm.Accepted ⟨forms, none⟩ :=
    CommandForm.accepted_of_readAs (c := ⟨segments, none⟩) ⟨hreads, .none⟩ hne
      ⟨fun s hs => (hforms s hs).1, nofun⟩ fun s hs => (hforms s hs).2
  have hwhole := CommandForm.whole_pathText haccepted '!' List.mem_cons_self
  rw [hpathText] at hwhole
  have htext : (path ++ "!" ++ operation).toList = path.toList ++ '!' :: operation.toList := by
    simp
  rw [parseCommand, htext] at h
  obtain ⟨⟨first, parts⟩, hcut, h⟩ := seq_eq_ok.mp h
  rw [scanned_eq_ok] at hcut
  obtain ⟨rfl, part, others, rfl, hbehind⟩ :=
    split_append_separator (by decide) rfl hwhole hcut
  cases others with
  | cons => cases h
  | nil =>
    -- With no other mark behind it, the second part is all of the text of the operation.
    have hpart := eq_joined_of_splitFrom hbehind
    simp only [joined, List.flatMap_nil, List.append_nil] at hpart
    obtain ⟨d, hd, h⟩ := seq_eq_ok.mp h
    obtain ⟨read, hread, h⟩ := seq_eq_ok.mp h
    obtain rfl := Except.ok.inj (hread.symm.trans hpath)
    rw [← hpart] at hd
    exact ⟨d, hd, (pure_eq_ok.mp h).symm⟩

end Registry

end TreePath
