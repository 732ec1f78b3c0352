import PageObject.Accessor

namespace PageObject

theorem append_append_of_eq {first second joined : String} (h : first ++ second = joined)
    (rest : String) : first ++ (second ++ rest) = joined ++ rest := by
  rw [← String.append_assoc, h]

theorem Parameter.argumentText_of_named {parameter : Parameter} (named : parameter.isLiteral = false) :
    parameter.argumentText = parameter.name := by
  have noLiteral : parameter.literal = none := by simpa [isLiteral] using named
  rw [argumentText, noLiteral]

/-- A piece of generated code. A call passes some texts and then arguments, each as it is written. -/
inductive Code.Piece where
  | plain (text : String)
  | binder (name : String)
  | call (function : String) (texts : List String) (arguments : List Parameter)

abbrev Code := List Code.Piece

namespace Code

@[simp] def Piece.text : Piece → String
  | .plain text => text
  | .binder name => name
  | .call function texts arguments =>
    function ++ "(" ++ ", ".intercalate (texts ++ arguments.map Parameter.argumentText) ++ ")"

@[simp] def Piece.binder? : Piece → Option String
  | .binder name => some name
  | _ => none

@[simp] def Piece.arguments : Piece → List Parameter
  | .call _ _ arguments => arguments
  | _ => []

def text (code : Code) : String := String.join (code.map Piece.text)

def binders (code : Code) : List String := code.filterMap Piece.binder?

def arguments (code : Code) : List Parameter := code.flatMap Piece.arguments

variable (code rest : Code)

@[simp] theorem text_nil : text [] = "" := rfl

@[simp] theorem text_cons (piece : Piece) : text (piece :: code) = piece.text ++ text code := by
  simp [text, String.join_cons]

@[simp] theorem text_append : text (code ++ rest) = text code ++ text rest := by
  simp [text, String.join_append]

@[simp] theorem binders_nil : binders [] = [] := rfl

@[simp] theorem binders_cons (piece : Piece) :
    binders (piece :: code) = piece.binder?.toList ++ binders code := by
  cases piece <;> rfl

@[simp] theorem binders_append : binders (code ++ rest) = binders code ++ binders rest :=
  List.filterMap_append

@[simp] theorem arguments_nil : arguments [] = [] := rfl

@[simp] theorem arguments_cons (piece : Piece) :
    arguments (piece :: code) = piece.arguments ++ arguments code :=
  List.flatMap_cons

@[simp] theorem arguments_append : arguments (code ++ rest) = arguments code ++ arguments rest :=
  List.flatMap_append

end Code

def getterStatement (base : NamedType) (element getter : String) (arguments : List String)
    (isNullable expandsShadowRoot : Bool) : String :=
  base.simpleName ++ " " ++ element ++ " = this." ++ getter ++ "(" ++ ", ".intercalate arguments ++ ")" ++
    (if isNullable then ".nullable()" else "") ++ (if expandsShadowRoot then ".expandShadowRoot()" else "")

namespace Scope

def code (scope : Scope) (base : NamedType) : Code :=
  [.plain (base.simpleName ++ " "), .binder scope.name, .plain " = ",
    .call ("this." ++ scope.getter) [] scope.parameters,
    .plain (if scope.isNullable then ".nullable()" else ""),
    .plain (if scope.expandsShadowRoot then ".expandShadowRoot()" else "")]

variable (scope : Scope) (base : NamedType)

theorem text_code : (scope.code base).text = scope.declarationLine base := by
  have joined := append_append_of_eq (show " = " ++ "this." = " = this." by decide)
  simp [code, declarationLine, argumentList, String.append_assoc, joined]

@[simp] theorem binders_code : (scope.code base).binders = [scope.name] := rfl

@[simp] theorem arguments_code : (scope.code base).arguments = scope.parameters := by
  simp [code]

theorem declarationLine_of_named {scope : Scope}
    (named : ∀ parameter ∈ scope.parameters, parameter.isLiteral = false) (base : NamedType) :
    scope.declarationLine base = getterStatement base scope.name scope.getter
      (scope.parameters.map Parameter.name) scope.isNullable scope.expandsShadowRoot := by
  have texts : scope.parameters.map Parameter.argumentText = scope.parameters.map Parameter.name :=
    List.map_congr_left fun parameter member => Parameter.argumentText_of_named (named parameter member)
  rw [declarationLine, argumentList, texts]
  rfl

end Scope

def Locator.pieces (locator : Locator) (args : List Parameter) : Code :=
  [.plain ("LocatorBy." ++ locator.strategy.factory ++ "("),
    if args.isEmpty then .plain (Text.quote locator.expression)
    else .call "String.format" [Text.quote locator.expression] args,
    .plain ")"]

@[simp] theorem Locator.binders_pieces (locator : Locator) (args : List Parameter) :
    (locator.pieces args).binders = [] := by
  cases args <;> rfl

@[simp] theorem Locator.arguments_pieces (locator : Locator) (args : List Parameter) :
    (locator.pieces args).arguments = args := by
  cases args <;> simp [pieces]

theorem Locator.text_pieces (locator : Locator) (args : List Parameter) :
    (locator.pieces args).text = locator.code args := by
  cases args with
  | nil => simp [pieces, code, String.append_assoc]
  | cons first rest => simp [pieces, code, argumentList, String.append_assoc]

def Matcher.pieces (operand : String) (args : List Parameter) : Matcher → Code
  | .isTrue => [.plain ("Boolean.TRUE.equals(" ++ operand ++ ")")]
  | .isFalse => [.plain ("Boolean.FALSE.equals(" ++ operand ++ ")")]
  | .notNull => [.plain (operand ++ " != null")]
  | .stringEquals => [.plain (operand ++ " != null && "), .call (operand ++ ".equals") [] args]
  | .stringContains => [.plain (operand ++ " != null && "), .call (operand ++ ".contains") [] args]

theorem Matcher.text_pieces (matcher : Matcher) (operand : String) (args : List Parameter) :
    (matcher.pieces operand args).text = matcher.condition operand (argumentList args) := by
  unfold condition
  cases matcher with
  | isTrue => simp [pieces]
  | isFalse => simp [pieces]
  | notNull => simp [pieces]
  | stringEquals => simp [pieces, argumentList, String.append_assoc]
  | stringContains => simp [pieces, argumentList, String.append_assoc]

theorem Matcher.arguments_pieces {matcher : Matcher} {args : List Parameter}
    (count : args.length = matcher.arity) (operand : String) :
    (matcher.pieces operand args).arguments = args := by
  cases matcher with
  | isTrue | isFalse | notNull => exact (List.length_eq_zero_iff.mp count).symm
  | stringEquals | stringContains => simp [pieces]

@[simp] theorem Matcher.binders_pieces (matcher : Matcher) (operand : String) (args : List Parameter) :
    (matcher.pieces operand args).binders = [] := by
  cases matcher <;> rfl

namespace Predicate

def pieces (predicate : Predicate) : Code :=
  [.binder candidate, .plain (" -> \x7b " ++ predicate.matcher.resultType ++ " "), .binder operand,
    .plain " = ", .call (candidate ++ "." ++ predicate.applyMethod) [] predicate.applyParameters,
    .plain "; return "] ++ predicate.matcher.pieces operand predicate.matcherParameters ++ [.plain "; \x7d"]

theorem text_pieces (predicate : Predicate) : predicate.pieces.text = predicate.code := by
  have joined := append_append_of_eq (show ")" ++ "; return " = "); return " by decide)
  simp [pieces, code, Matcher.text_pieces, argumentList, String.append_assoc, joined]

@[simp] theorem binders_pieces (predicate : Predicate) :
    predicate.pieces.binders = [candidate, operand] := by
  simp [pieces]

theorem arguments_pieces {predicate : Predicate}
    (count : predicate.matcherParameters.length = predicate.matcher.arity) :
    predicate.pieces.arguments = predicate.parameters := by
  simp [pieces, parameters, Matcher.arguments_pieces count]

end Predicate

namespace AccessorPlan

def returnCode (plan : AccessorPlan) : Code :=
  [.plain ("return " ++ plan.lookup.method ++ "(" ++ plan.scope.name ++ ", ")] ++
    plan.locator.pieces plan.locatorParameters ++
    [.plain (")." ++ (if plan.cardinality.isList then "buildList" else "build") ++
      "(" ++ plan.elementType.simpleName ++ ".class")] ++
    (match plan.cardinality.predicate? with
      | some predicate => .plain ", " :: predicate.pieces
      | none => []) ++
    [.plain ")"]

theorem text_returnCode (plan : AccessorPlan) : plan.returnCode.text = plan.returnLine := by
  unfold returnCode returnLine
  cases plan.cardinality.predicate? <;>
    simp [Locator.text_pieces, Predicate.text_pieces, String.append_assoc]

theorem binders_returnCode (plan : AccessorPlan) :
    plan.returnCode.binders =
      (plan.cardinality.predicate?.map fun _ => [Predicate.candidate, Predicate.operand]).getD [] := by
  unfold returnCode
  cases plan.cardinality.predicate? with
  | none => simp
  | some predicate => simp

theorem arguments_returnCode {plan : AccessorPlan}
    (count : ∀ predicate, plan.cardinality.predicate? = some predicate →
      predicate.matcherParameters.length = predicate.matcher.arity) :
    plan.returnCode.arguments = plan.locatorParameters ++ plan.cardinality.parameters := by
  unfold returnCode Cardinality.parameters
  cases filtered : plan.cardinality.predicate? with
  | none => simp
  | some predicate => simp [Predicate.arguments_pieces (count predicate filtered)]

end AccessorPlan

end PageObject
