import Mathlib.Data.List.SplitBy
import ServiceBindings.Proofs.Java.Agreement

/-!
# Variables in Java statements

What a statement uses and whether it returns something can be read from its text.  A text falls
into words and signs; a word is no variable if it is a member of something or a method that is
called.  For the statements of method bodies this reading gives the parameters that they were
made of, whatever the method is called.
-/

namespace ServiceBindings.Java

/-! ## Words and signs -/

/-- Whether a character may be part of a Java identifier.  Beyond ASCII all characters may. -/
def isIdentifierPart (c : Char) : Bool :=
  c.isAlphanum || c == '_' || c == '$' || 0x80 ≤ c.toNat

/-- Whether a text is a Java identifier. -/
structure IsIdentifier (name : String) : Prop where
  nonempty : name ≠ ""
  parts : ∀ c ∈ name.toList, isIdentifierPart c = true

instance (name : String) : Decidable (IsIdentifier name) :=
  decidable_of_iff (name ≠ "" ∧ name.toList.all isIdentifierPart = true)
    ⟨fun given => ⟨given.1, List.all_eq_true.mp given.2⟩,
      fun given => ⟨given.nonempty, List.all_eq_true.mpr given.parts⟩⟩

theorem IsIdentifier.notMem {name : String} (isIdentifier : IsIdentifier name) {c : Char}
    (isSign : isIdentifierPart c = false) : c ∉ name.toList := by
  intro member
  rw [isIdentifier.parts c member] at isSign
  cases isSign

/-- Whether two characters that follow each other are in one word. -/
def joins (left right : Char) : Bool := isIdentifierPart left && isIdentifierPart right

/-- The words of a text as a whole, and its signs one by one, without blanks. -/
def tokens (text : String) : List String :=
  ((text.toList.splitBy joins).map String.ofList).filter (· != " ")

theorem tokens_append {front back : String}
    (border : ∀ left ∈ front.toList.getLast?, ∀ right ∈ back.toList.head?,
      joins left right = false) :
    tokens (front ++ back) = tokens front ++ tokens back := by
  rw [tokens, String.toList_append, List.splitBy_append border, List.map_append,
    List.filter_append]
  rfl

theorem tokens_append_of_head {front back : String}
    (isSign : back.toList.head?.any isIdentifierPart = false) :
    tokens (front ++ back) = tokens front ++ tokens back := by
  apply tokens_append
  intro left _ right isFirst
  rw [Option.mem_def] at isFirst
  rw [isFirst, Option.any_some] at isSign
  rw [joins, isSign, Bool.and_false]

theorem tokens_append_of_getLast {front back : String}
    (isSign : front.toList.getLast?.any isIdentifierPart = false) :
    tokens (front ++ back) = tokens front ++ tokens back := by
  apply tokens_append
  intro left isLast right _
  rw [Option.mem_def] at isLast
  rw [isLast, Option.any_some] at isSign
  rw [joins, isSign, Bool.false_and]

theorem IsIdentifier.tokens_eq {name : String} (isIdentifier : IsIdentifier name) :
    tokens name = [name] := by
  have nonempty : name.toList ≠ [] := by simpa using isIdentifier.nonempty
  have isChain : name.toList.IsChain fun left right => joins left right = true := by
    apply List.Pairwise.isChain
    apply List.pairwise_of_forall_mem_list
    intro left leftMember right rightMember
    rw [joins, isIdentifier.parts left leftMember, isIdentifier.parts right rightMember]
    rfl
  have notBlank : name ≠ " " := by
    intro isBlank
    exact @notMem _ isIdentifier ' ' (by decide) (by simp [isBlank])
  rw [tokens, List.splitBy_of_isChain nonempty isChain]
  simp [notBlank]

/-- An identifier between signs is a word of its own. -/
theorem IsIdentifier.tokens_between {name : String} (isIdentifier : IsIdentifier name)
    {front back : String} (afterSign : front.toList.getLast?.any isIdentifierPart = false)
    (beforeSign : back.toList.head?.any isIdentifierPart = false) :
    tokens (front ++ (name ++ back)) = tokens front ++ name :: tokens back := by
  rw [tokens_append_of_getLast afterSign, tokens_append_of_head beforeSign,
    isIdentifier.tokens_eq, List.singleton_append]

/-! ## Reading a statement -/

/-- What is evaluated in a line: if a variable is declared there, what it is set to. -/
def expressionOf (line : String) : String :=
  match Text.cutLast? '=' line with
  | some (_, expression) => expression
  | none => line

/-- The variables among tokens, given the token before them.  A word after a point or a colon is
a member of something, and a word before a parenthesis is a method. -/
def variablesAfter (previous : String) : List String → List String
  | [] => []
  | token :: rest =>
    (if previous = "." ∨ previous = ":" ∨ rest.head? = some "(" then [] else [token]) ++
      variablesAfter token rest

/-- What a method takes under a name. -/
def Argument.ofName? (name : String) : Option Argument :=
  [input, properties, observer].find? (·.name == name)

/-- The parameters among the variables in some tokens. -/
def argumentsAfter (previous : String) (tokens : List String) : List Argument :=
  (variablesAfter previous tokens).filterMap Argument.ofName?

/-- The parameters that a line uses. -/
def usedArguments (line : String) : List Argument := argumentsAfter "" (tokens (expressionOf line))

/-- What a line returns, if it returns something. -/
def returned? (line : String) : Option String := enclosed? "return " ";" line

/-- The type of the stub that a line declares. -/
def stubType? (line : String) : Option String :=
  (Text.cutLast? '=' line).bind fun cut => enclosed? "" " stub " cut.1

theorem argumentsAfter_cons (previous token : String) (rest : List String) :
    argumentsAfter previous (token :: rest) =
      (if previous = "." ∨ previous = ":" ∨ rest.head? = some "(" then []
        else (Argument.ofName? token).toList) ++ argumentsAfter token rest := by
  rw [argumentsAfter, variablesAfter, List.filterMap_append]
  split
  · rfl
  · rw [List.filterMap_cons, List.filterMap_nil]
    cases Argument.ofName? token <;> rfl

/-- Tokens that name no parameter can be passed over. -/
theorem argumentsAfter_append {front : List String}
    (others : ∀ token ∈ front, Argument.ofName? token = none) (previous : String)
    (rest : List String) :
    argumentsAfter previous (front ++ rest) = argumentsAfter (front.getLastD previous) rest := by
  induction front generalizing previous with
  | nil => rfl
  | cons token front ih =>
      have isOther := others token List.mem_cons_self
      rw [List.cons_append, argumentsAfter_cons, isOther,
        ih fun other member => others other (List.mem_cons_of_mem _ member), List.getLastD_cons]
      simp

/-- Whether a token is none of the signs by which words are told apart. -/
def IsNoMark (token : String) : Prop := token ∉ [".", ":", "("]

instance (token : String) : Decidable (IsNoMark token) := inferInstanceAs (Decidable (_ ∉ _))

theorem IsIdentifier.isNoMark {name : String} (isIdentifier : IsIdentifier name) :
    IsNoMark name := by
  intro isMark
  simp only [List.mem_cons, List.not_mem_nil, or_false] at isMark
  rcases isMark with rfl | rfl | rfl
  · exact @notMem _ isIdentifier '.' (by decide) (by decide)
  · exact @notMem _ isIdentifier ':' (by decide) (by decide)
  · exact @notMem _ isIdentifier '(' (by decide) (by decide)

/-- A word that is a member of something or a method that is called may as well have another
name. -/
theorem argumentsAfter_replace {name other : String} (isNoMark : IsNoMark name)
    (isNoMark' : IsNoMark other) {front back : List String} {previous : String}
    (isNoVariable : front.getLastD previous = "." ∨ front.getLastD previous = ":" ∨
      back.head? = some "(") :
    argumentsAfter previous (front ++ name :: back) =
      argumentsAfter previous (front ++ other :: back) := by
  simp only [IsNoMark, List.mem_cons, List.not_mem_nil, or_false, not_or] at isNoMark isNoMark'
  induction front generalizing previous with
  | nil =>
      rw [List.getLastD_nil] at isNoVariable
      rw [List.nil_append, List.nil_append, argumentsAfter_cons, argumentsAfter_cons,
        if_pos isNoVariable, if_pos isNoVariable, List.nil_append, List.nil_append]
      cases back with
      | nil => rfl
      | cons next rest =>
          rw [argumentsAfter_cons, argumentsAfter_cons]
          simp [isNoMark, isNoMark']
  | cons token front ih =>
      rw [List.getLastD_cons] at isNoVariable
      have sameHead : (front ++ name :: back).head? = some "(" ↔
          (front ++ other :: back).head? = some "(" := by
        cases front <;> simp [isNoMark, isNoMark']
      rw [List.cons_append, List.cons_append, argumentsAfter_cons, argumentsAfter_cons,
        ih isNoVariable]
      simp only [sameHead]

/-- An operand is read back, whatever sign comes after it. -/
theorem argumentsAfter_operand {previous next : String}
    (notMember : ¬(previous = "." ∨ previous = ":")) (isSign : Argument.ofName? next = none)
    (notCalled : next ≠ "(") (operand : Operand) (rest : List String) :
    argumentsAfter previous (tokens operand.text ++ next :: rest) =
      Statement.uses.operandUses operand ++ argumentsAfter next rest := by
  have others : ∀ {front : List String}, (∀ token ∈ front, Argument.ofName? token = none) →
      argumentsAfter previous (front ++ next :: rest) = argumentsAfter next rest := by
    intro front areOthers
    have allOthers : ∀ token ∈ front ++ [next], Argument.ofName? token = none := by
      rw [List.forall_mem_append, List.forall_mem_singleton]
      exact ⟨areOthers, isSign⟩
    rw [List.append_cons, argumentsAfter_append allOthers, List.getLastD_concat]
  cases operand with
  | argument argument =>
      have single : tokens argument.name = [argument.name] := by cases argument <;> decide
      have isName : Argument.ofName? argument.name = some argument := by cases argument <;> decide
      have isVariable : ¬(previous = "." ∨ previous = ":" ∨ (next :: rest).head? = some "(") := by
        rw [← or_assoc, not_or, List.head?_cons, Option.some_inj]
        exact ⟨notMember, notCalled⟩
      rw [Operand.text, single, List.singleton_append, argumentsAfter_cons, isName,
        if_neg isVariable, ← List.singleton_append, argumentsAfter_append (by simpa using isSign)]
      rfl
  | noProperties => exact others (by decide)
  | noMessage => exact others (by decide)

theorem argumentsAfter_operands {previous : String} (notMember : ¬(previous = "." ∨ previous = ":"))
    (operands : List Operand) :
    argumentsAfter previous
        (tokens (String.intercalate ", " (operands.map Operand.text) ++ ");")) =
      operands.flatMap Statement.uses.operandUses := by
  have closing : tokens ");" = ")" :: [";"] := by decide
  induction operands generalizing previous with
  | nil => exact @argumentsAfter_append [")", ";"] (by decide) previous []
  | cons operand rest ih =>
      cases rest with
      | nil =>
          rw [List.map_singleton, String.intercalate_singleton,
            @tokens_append_of_head _ ");" (by decide), closing,
            argumentsAfter_operand notMember (by decide) (by decide)]
          rfl
      | cons next others =>
          have comma : tokens ", " = [","] := by decide
          rw [List.map_cons, List.map_cons, String.intercalate_cons_cons, ← List.map_cons,
            String.append_assoc, String.append_assoc,
            @tokens_append_of_head _ (", " ++ _) (by simp +decide),
            @tokens_append_of_getLast ", " _ (by decide), comma,
            List.singleton_append, argumentsAfter_operand notMember (by decide) (by decide),
            ih (by decide)]
          rfl

/-! ## Statements of method bodies -/

namespace Statement

/-- The method that a statement calls. -/
def method? : Statement → Option String
  | acquireStub _ _ => none
  | request _ method => some method
  | forward _ method _ => some method

theorem expressionOf_of_absent {line : String} (absent : '=' ∉ line.toList) :
    expressionOf line = line := by
  rw [expressionOf, Text.cutLast?_of_absent absent]

/-- The last equals sign of a declaration is the one before its value, whatever the type is. -/
theorem cutLast?_text_acquireStub (stubClass : String) (operand : Operand) :
    Text.cutLast? '=' (acquireStub stubClass operand).text =
      some (stubClass ++ " stub ", " getStub(" ++ (operand.text ++ ", properties);")) := by
  have absent : '=' ∉ (" getStub(" ++ (operand.text ++ ", properties);")).toList := by
    cases operand with
    | argument argument => cases argument <;> decide
    | noProperties => decide
    | noMessage => decide
  have declared : " stub = getStub(" = " stub " ++ (String.singleton '=' ++ " getStub(") := by
    decide
  have passed : ", properties);" = ", " ++ (Argument.properties.name ++ ");") := by decide
  have cut : (acquireStub stubClass operand).text = stubClass ++ " stub " ++ String.singleton '=' ++
      (" getStub(" ++ (operand.text ++ ", properties);")) := by
    simp only [text_acquireStub, declared, passed, String.append_assoc]
  rw [cut, Text.cutLast?_append_separator_append _ absent]

theorem stubType?_text_acquireStub (stubClass : String) (operand : Operand) :
    stubType? (acquireStub stubClass operand).text = some stubClass := by
  rw [stubType?, cutLast?_text_acquireStub, Option.bind_some, enclosed?_eq_some_iff,
    String.empty_append]

theorem usedArguments_acquireStub (stubClass : String) (operand : Operand) :
    usedArguments (acquireStub stubClass operand).text = (acquireStub stubClass operand).uses := by
  have opening : tokens " getStub(" = ["getStub", "("] := by decide
  have closing : tokens ", properties);" = "," :: ["properties", ")", ";"] := by decide
  rw [usedArguments, expressionOf, cutLast?_text_acquireStub]
  simp only
  rw [@tokens_append_of_getLast " getStub(" _ (by decide), opening,
    @tokens_append_of_head _ ", properties);" (by decide), closing,
    argumentsAfter_append (by decide), argumentsAfter_operand (by decide) (by decide) (by decide)]
  rfl

theorem absent_of_mem_operands (operands : List Operand) :
    '=' ∉ (String.intercalate ", " (operands.map Operand.text)).toList := by
  apply Text.notMem_intercalate (by decide)
  intro part member
  obtain ⟨operand, _, rfl⟩ := List.mem_map.mp member
  cases operand with
  | argument argument => cases argument <;> decide
  | noProperties => decide
  | noMessage => decide

/-- What is read around the name of a method does not depend on the name. -/
theorem usedArguments_around {name : String} (isIdentifier : IsIdentifier name)
    {front back : String} (absent : '=' ∉ (front ++ back).toList)
    (afterSign : front.toList.getLast?.any isIdentifierPart = false)
    (beforeSign : back.toList.head?.any isIdentifierPart = false)
    (isNoVariable : (tokens front).getLastD "" = "." ∨ (tokens front).getLastD "" = ":" ∨
      (tokens back).head? = some "(") :
    usedArguments (front ++ (name ++ back)) =
      argumentsAfter "" (tokens front ++ "stub" :: tokens back) := by
  have notInName := @IsIdentifier.notMem _ isIdentifier '=' (by decide)
  have allAbsent : '=' ∉ (front ++ (name ++ back)).toList := by
    simp only [String.toList_append, List.mem_append, not_or] at absent ⊢
    exact ⟨absent.1, notInName, absent.2⟩
  rw [usedArguments, expressionOf_of_absent allAbsent,
    isIdentifier.tokens_between afterSign beforeSign,
    @argumentsAfter_replace _ "stub" isIdentifier.isNoMark (by decide) _ _ _ isNoVariable]

theorem usedArguments_forward {name : String} (isIdentifier : IsIdentifier name)
    (returnsValue : Bool) (operands : List Operand) :
    usedArguments (forward returnsValue name operands).text =
      (forward returnsValue name operands).uses := by
  have notInOperands := absent_of_mem_operands operands
  have passed := @argumentsAfter_operands "(" (by decide) operands
  rw [text_forward, String.append_assoc, String.append_assoc, String.append_assoc]
  generalize String.intercalate ", " (operands.map Operand.text) = joined at notInOperands passed
  have back : tokens ("(" ++ (joined ++ ");")) = "(" :: tokens (joined ++ ");") :=
    tokens_append_of_getLast (by decide)
  have beforeSign : ("(" ++ (joined ++ ");")).toList.head?.any isIdentifierPart = false := by
    simp +decide
  cases returnsValue with
  | true =>
      rw [if_pos rfl, usedArguments_around isIdentifier (by simp [notInOperands]) (by decide)
        beforeSign (by simp [back]), back]
      exact (@argumentsAfter_append ["return", "stub", "("] (by decide) _ _).trans passed
  | false =>
      rw [if_neg Bool.false_ne_true, usedArguments_around isIdentifier (by simp [notInOperands])
        (by decide) beforeSign (by simp [back]), back]
      exact (@argumentsAfter_append ["stub", "("] (by decide) _ _).trans passed

theorem usedArguments_request {name : String} (isIdentifier : IsIdentifier name)
    (wiring : Wiring) :
    usedArguments (request wiring name).text = (request wiring name).uses := by
  cases wiring with
  | blocking =>
      have isText : (request .blocking name).text =
          "return createBlockingRequest(() -> stub." ++ (name ++ "(input));") := by
        simp [text_request, ← String.toList_inj, Argument.name]
      rw [isText, usedArguments_around isIdentifier (by decide) (by decide) (by decide) (by decide)]
      change _ = [Argument.input]
      decide
  | callback =>
      have isText : (request .callback name).text =
          "createAsyncRequest(observer, (newObserver) -> stub." ++
            (name ++ "(input, newObserver));") := by
        simp [text_request, ← String.toList_inj, Argument.name]
      rw [isText, usedArguments_around isIdentifier (by decide) (by decide) (by decide) (by decide)]
      change _ = [Argument.observer, Argument.input]
      decide
  | stream =>
      have isText : (request .stream name).text =
          "return createAsyncStreamRequest(observer, stub::" ++ (name ++ ");") := by
        simp [text_request, ← String.toList_inj, Argument.name]
      rw [isText, usedArguments_around isIdentifier (by decide) (by decide) (by decide) (by decide)]
      change _ = [Argument.observer]
      decide

/-- The parameters that are read from the text of a statement are those that it is made of. -/
theorem usedArguments_text {statement : Statement}
    (named : ∀ name ∈ statement.method?, IsIdentifier name) :
    usedArguments statement.text = statement.uses := by
  cases statement with
  | acquireStub stubClass operand => exact usedArguments_acquireStub stubClass operand
  | request wiring method => exact usedArguments_request (named method rfl) wiring
  | forward returnsValue method operands =>
      exact usedArguments_forward (named method rfl) returnsValue operands

/-- The method has the name of its parameter, and a namespace has the name of another one. -/
example :
    usedArguments "return input(input, java.util.Collections.emptyMap());" = [.input] ∧
      usedArguments "observer.Chat stub = getStub(input, properties);" = [.input, .properties] := by
  decide

/-! ## Returned values -/

/-- Whether a statement returns a value. -/
def returnsValue : Statement → Bool
  | acquireStub _ _ => false
  | request wiring _ => wiring.returnsValue
  | forward returnsValue _ _ => returnsValue

theorem isSome_returned?_iff {line : String} :
    (returned? line).isSome = true ↔ ∃ value, line = "return " ++ value ++ ";" := by
  simp only [returned?, Option.isSome_iff_exists, enclosed?_eq_some_iff]

theorem isSome_returned?_text_request (wiring : Wiring) (method : String) :
    (returned? (request wiring method).text).isSome = wiring.returnsValue := by
  rw [Bool.eq_iff_iff, isSome_returned?_iff, text_request]
  cases wiring with
  | blocking =>
      refine iff_of_true ⟨"createBlockingRequest(() -> stub." ++ method ++ "(input))", ?_⟩ rfl
      simp [← String.toList_inj, Argument.name]
  | callback =>
      refine iff_of_false ?_ Bool.false_ne_true
      intro given
      obtain ⟨value, same⟩ := given
      have sameStart := congrArg (·.toList.head?) same
      simp at sameStart
  | stream =>
      refine iff_of_true
        ⟨"createAsyncStreamRequest(observer, stub::" ++ method ++ ")", ?_⟩ rfl
      simp [← String.toList_inj, Argument.name]

/-- A call that is not returned is read as such, even if the method has the name of the keyword. -/
theorem isSome_returned?_text_forward {name : String} (isIdentifier : IsIdentifier name)
    (returnsValue : Bool) (operands : List Operand) :
    (returned? (forward returnsValue name operands).text).isSome = returnsValue := by
  rw [Bool.eq_iff_iff, isSome_returned?_iff, text_forward]
  generalize String.intercalate ", " (operands.map Operand.text) = passed
  cases returnsValue with
  | true =>
      refine iff_of_true ⟨name ++ "(" ++ passed ++ ")", ?_⟩ rfl
      simp [← String.toList_inj]
  | false =>
      refine iff_of_false ?_ Bool.false_ne_true
      intro given
      obtain ⟨value, same⟩ := given
      have notBlank := @IsIdentifier.notMem _ isIdentifier ' ' (by decide)
      have sameList : name.toList ++ '(' :: (passed.toList ++ [')', ';']) =
          "return".toList ++ ' ' :: (value.toList ++ [';']) := by
        simpa [← String.toList_inj] using same
      -- a blank inside the name, or a parenthesis inside the keyword
      rcases List.append_eq_append_iff.mp sameList with
        ⟨more, isKeyword, rest⟩ | ⟨more, isName, rest⟩
      · cases more with
        | nil => simp at rest
        | cons c others =>
            obtain ⟨rfl, _⟩ := List.cons.inj rest
            have inKeyword : '(' ∈ "return".toList := by simp [isKeyword]
            exact absurd inKeyword (by decide)
      · cases more with
        | nil => simp at rest
        | cons c others =>
            obtain ⟨rfl, _⟩ := List.cons.inj rest
            exact notBlank (by simp [isName])

theorem isSome_returned?_text {statement : Statement}
    (named : ∀ name ∈ statement.method?, IsIdentifier name) (isCall : statement.method?.isSome) :
    (returned? statement.text).isSome = statement.returnsValue := by
  cases statement with
  | acquireStub stubClass operand => cases isCall
  | request wiring method => exact isSome_returned?_text_request wiring method
  | forward returnsValue method operands =>
      exact isSome_returned?_text_forward (named method rfl) returnsValue operands

end Statement

end ServiceBindings.Java
