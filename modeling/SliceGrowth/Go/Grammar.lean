import SliceGrowth.Go.Phrase

/-!
The grammar of Go source. It accepts more than a compiler does: statements may stand outside functions,
a word is a keyword only where the grammar has one, and a line break ends a phrase only where the phrase
could end.
-/
namespace SliceGrowth.Go

namespace Phrase

def one (text : String) : Phrase := sign [text]

def opt (phrase : Phrase) : Phrase := alt [phrase, seq []]

/-- The phrase or nothing, where a line break means nothing. -/
def optOnLine (phrase : Phrase) : Phrase := opt (onLine phrase)

def inside (phrase : Phrase) : Phrase := within (fun _ => .inner) phrase

def inBody (phrase : Phrase) : Phrase := within (fun _ => .body) phrase

def inHeader (phrase : Phrase) : Phrase := within (fun _ => .header) phrase

/-- One or more, with commas between them. -/
def commas (phrase : Phrase) : Phrase := seq [phrase, many (seq [onLine (one ","), phrase])]

/-- One or more, with commas between them and perhaps one after them, where lines do not count. -/
def listed (phrase : Phrase) : Phrase := inside (seq [commas phrase, opt (one ",")])

def parenthesized (phrase : Phrase) : Phrase := seq [one "(", inside phrase, one ")"]

def bracketed (phrase : Phrase) : Phrase := seq [one "[", inside phrase, one "]"]

/-- Elements between braces, each ended by a line break or a semicolon. -/
def braced (element : Phrase) : Phrase :=
  seq [one "\x7b", inBody (opt (seq [element, many (seq [ending, element]), opt ending])), one "\x7d"]

/-- One specification, or several in parentheses. -/
def grouped (specification : Phrase) : Phrase :=
  alt [seq [one "(", many (seq [specification, ending]), one ")"], specification]

end Phrase

open Phrase

/-- Words that begin a type. -/
def typeWords : List String := ["func", "struct", "map", "chan", "interface"]

/-- Words that begin an expression. -/
def expressionWords : List String := typeWords ++ ["nil", "true", "false", "iota", "new", "make"]

/-- Words that begin a statement which is not an expression. -/
def statementWords : List String :=
  ["const", "var", "type", "return", "go", "defer", "if", "for", "switch", "select", "fallthrough",
    "break", "continue", "goto"]

def anyName (kind : String) : Phrase := name kind []

def expression : Phrase := rule .expression

def type : Phrase := rule .type

def expressionList : Phrase := node "expression_list" (commas expression)

def stringLiteral : Phrase :=
  alt [literal .string "interpreted_string_literal", literal .rawString "raw_string_literal"]

/-! Types -/

def qualifiedType : Phrase :=
  node "qualified_type" (seq [role "package" (name "package_identifier" typeWords), onLine (one "."),
    role "name" (anyName "type_identifier")])

def typeIdentifier : Phrase := name "type_identifier" typeWords

def genericType : Phrase :=
  node "generic_type" (seq [role "type" (alt [qualifiedType, typeIdentifier]),
    onLine (role "type_arguments" (rule .typeArguments))])

/-- Types joined to a constraint. -/
def typeElement : Phrase := seq [type, many (seq [onLine (one "|"), type])]

def sliceType : Phrase := node "slice_type" (seq [one "[", one "]", role "element" type])

def arrayType : Phrase :=
  node "array_type" (seq [bracketed (role "length" expression), role "element" type])

def implicitLengthArrayType : Phrase :=
  node "implicit_length_array_type" (seq [one "[", one "...", one "]", role "element" type])

def mapType : Phrase :=
  node "map_type" (seq [keyword "map", bracketed (role "key" type), role "value" type])

def fieldTag : Phrase := optOnLine (role "tag" stringLiteral)

/-- An embedded field is one that ends after the name of its type. -/
def fieldDeclaration : Phrase :=
  alt [
    seq [node "field_declaration" (seq [opt (one "*"), role "type" (rule .typeName), fieldTag]),
      ahead (alt [ending, one "\x7d"])],
    node "field_declaration" (seq [commas (role "name" (anyName "field_identifier")), role "type" type,
      fieldTag])]

def structType : Phrase :=
  node "struct_type" (seq [keyword "struct", node "field_declaration_list" (braced fieldDeclaration)])

def resultType : Phrase := role "result" (alt [rule .parameters, rule .simpleType])

def interfaceElement : Phrase :=
  alt [
    node "method_elem" (seq [role "name" (name "field_identifier" typeWords),
      onLine (role "parameters" (rule .parameters)), optOnLine resultType]),
    node "type_elem" typeElement]

def interfaceType : Phrase :=
  node "interface_type" (seq [keyword "interface", braced interfaceElement])

def channelType : Phrase :=
  node "channel_type" (alt [
    seq [keyword "chan", one "<-", role "value" type],
    seq [keyword "chan", role "value" type],
    seq [one "<-", keyword "chan", role "value" type]])

def functionType : Phrase :=
  node "function_type" (seq [keyword "func", role "parameters" (rule .parameters), optOnLine resultType])

def parenthesizedType : Phrase := node "parenthesized_type" (parenthesized type)

def simpleType : Phrase :=
  alt [
    node "pointer_type" (seq [one "*", type]),
    node "negated_type" (seq [one "~", type]),
    sliceType, arrayType, structType, interfaceType, mapType, channelType, functionType,
    rule .typeName]

/-- Names without a type after them are types themselves. -/
def parameter : Phrase :=
  alt [
    node "parameter_declaration" (seq [commas (role "name" (name "identifier" typeWords)),
      role "type" type]),
    node "variadic_parameter_declaration" (seq [opt (role "name" (name "identifier" typeWords)),
      one "...", role "type" type]),
    node "parameter_declaration" (role "type" type)]

def parameters : Phrase :=
  node "parameter_list" (seq [one "(", opt (listed parameter), one ")"])

def typeParameter : Phrase :=
  node "type_parameter_declaration" (seq [commas (role "name" (anyName "identifier")),
    role "type" (node "type_constraint" typeElement)])

def typeParameters : Phrase :=
  node "type_parameter_list" (seq [one "[", listed typeParameter, one "]"])

def typeArguments : Phrase :=
  node "type_arguments" (seq [one "[", listed (node "type_elem" typeElement), one "]"])

/-! Expressions -/

/-- One level of operators that bind from the left. -/
def operators (tighter : Rule) (signs : List String) : Phrase :=
  chain (rule tighter) [("binary_expression", "left",
    seq [role "operator" (sign signs), role "right" (rule tighter)])]

/-- Signs before an operand. Two of them may run together, since no other sign begins an expression. -/
def unarySigns : List String := ["+", "-", "!", "^", "*", "&", "<-", "++", "--", "&&", "&^"]

def unary : Phrase :=
  alt [
    node "unary_expression" (seq [role "operator" (sign unarySigns), role "operand" (rule .unary)]),
    rule .primary]

def argument : Phrase := alt [node "variadic_argument" (seq [expression, one "..."]), expression]

def arguments : Phrase := node "argument_list" (seq [one "(", opt (listed argument), one ")"])

def sliceBounds : Phrase :=
  alt [
    seq [opt (role "start" expression), one ":", role "end" expression, one ":",
      role "capacity" expression],
    seq [opt (role "start" expression), one ":", opt (role "end" expression)]]

def questionForType : Phrase := seq [one ".", one "(", keyword "type"]

/-- What an operand may be followed by. Type arguments belong to the call that follows them. -/
def primaryLinks : List (String × String × Phrase) :=
  [("selector_expression", "operand", seq [one ".", role "field" (anyName "field_identifier")]),
    ("type_assertion_expression", "operand",
      seq [alt [when (!·.typeSwitch), notAhead questionForType], one ".", parenthesized (role "type" type)]),
    ("call_expression", "function",
      seq [role "type_arguments" (rule .typeArguments), onLine (role "arguments" (rule .arguments))]),
    ("index_expression", "operand", bracketed (role "index" expression)),
    ("slice_expression", "operand", bracketed sliceBounds),
    ("type_instantiation_expression", "type",
      seq [one "[", listed type, one "]"]),
    ("call_expression", "function", role "arguments" (rule .arguments))]

def literalElement : Phrase := node "literal_element" (alt [rule .literalValue, expression])

def element : Phrase :=
  alt [
    node "keyed_element" (seq [role "key" literalElement, one ":", role "value" literalElement]),
    literalElement]

def literalValue : Phrase :=
  node "literal_value" (seq [one "\x7b", opt (listed element), one "\x7d"])

def functionLiteral : Phrase :=
  node "func_literal" (seq [keyword "func",
    inside (seq [role "parameters" (rule .parameters), opt resultType]),
    role "body" (rule .block)])

/-- The one operand of a conversion. -/
def converted : Phrase :=
  seq [one "(", inside (seq [role "operand" expression, opt (one ",")]), one ")"]

/-- A call whose first argument is a type. -/
def allocation : Phrase :=
  node "call_expression" (seq [
    role "function" (alt [constant "identifier" "make", constant "identifier" "new"]),
    onLine (role "arguments" (node "argument_list" (seq [one "(",
      inside (opt (seq [type, many (seq [one ",", expression]), opt (one ",")])), one ")"])))])

/-- A type with arguments and one plain operand is a conversion, and so is a type that cannot be an
expression. -/
def operand : Phrase :=
  alt [
    functionLiteral,
    allocation,
    node "composite_literal" (seq [
      role "type" (alt [mapType, sliceType, implicitLengthArrayType, arrayType, structType]),
      role "body" (rule .literalValue)]),
    node "type_conversion_expression" (seq [
      role "type" (alt [sliceType, arrayType, structType, interfaceType, mapType, channelType,
        functionType]),
      converted]),
    seq [when (·.literal), node "composite_literal" (seq [
      role "type" (rule .typeName), onLine (role "body" (rule .literalValue))])],
    node "type_conversion_expression" (seq [role "type" genericType, onLine converted]),
    node "parenthesized_expression" (parenthesized expression),
    node "type_conversion_expression" (seq [role "type" parenthesizedType, converted]),
    stringLiteral,
    literal .int "int_literal",
    literal .float "float_literal",
    literal .imaginary "imaginary_literal",
    literal .rune "rune_literal",
    constant "nil" "nil",
    constant "true" "true",
    constant "false" "false",
    constant "iota" "iota",
    constant "identifier" "make",
    constant "identifier" "new",
    name "identifier" expressionWords]

/-! Statements -/

def assignmentSigns : List String :=
  ["*=", "/=", "%=", "<<=", ">>=", "&=", "&^=", "+=", "-=", "|=", "^=", "="]

/-- Statements that may stand in a header. The mode says how what comes last in them is read. -/
def simpleStatement (last : Mode → Mode) : Phrase :=
  alt [
    node "assignment_statement" (seq [role "left" expressionList,
      onLine (role "operator" (sign assignmentSigns)), role "right" (within last expressionList)]),
    node "short_var_declaration" (seq [role "left" expressionList, onLine (one ":="),
      role "right" (within last expressionList)]),
    node "send_statement" (seq [role "channel" expression, onLine (one "<-"),
      role "value" (within last expression)]),
    node "inc_statement" (seq [expression, onLine (one "++")]),
    node "dec_statement" (seq [expression, onLine (one "--")]),
    node "expression_statement" expression]

def initializer : Phrase := opt (seq [role "initializer" (rule .simple), one ";"])

def ifStatement : Phrase :=
  node "if_statement" (seq [keyword "if", inHeader (seq [initializer, role "condition" expression]),
    role "consequence" (rule .block),
    optOnLine (seq [keyword "else", role "alternative" (alt [rule .block, rule .ifStatement])])])

def assigned : Phrase := seq [role "left" expressionList, sign ["=", ":="]]

def rangeClause : Phrase :=
  node "range_clause" (seq [opt assigned, keyword "range", role "right" expression])

def forClause : Phrase :=
  node "for_clause" (seq [opt (role "initializer" (rule .simple)), one ";",
    opt (role "condition" expression), one ";", opt (role "update" (rule .update))])

/-- Where a range can begin, its word is no name. -/
def forHeader : Phrase :=
  alt [rangeClause, seq [notAhead (seq [opt assigned, keyword "range"]), alt [forClause, expression]]]

def forStatement : Phrase :=
  node "for_statement" (seq [keyword "for", inHeader (opt forHeader), role "body" (rule .block)])

/-- The statements of a clause, up to the next clause. -/
def clauseStatements : Phrase :=
  seq [one ":", within (fun _ => .clauseBody) (opt (rule .statementList))]

def defaultCase : Phrase := node "default_case" (seq [keyword "default", clauseStatements])

def clauses (clause : Phrase) : Phrase :=
  seq [one "\x7b", many (alt [clause, defaultCase]), one "\x7d"]

def typeSwitchStatement : Phrase :=
  node "type_switch_statement" (seq [keyword "switch",
    within (fun _ => .switchHeader) (seq [initializer,
      opt (seq [role "alias" expressionList, one ":="]), role "value" expression,
      questionForType, one ")"]),
    clauses (node "type_case" (seq [keyword "case", inside (commas (role "type" type)),
      clauseStatements]))])

def expressionSwitchStatement : Phrase :=
  node "expression_switch_statement" (seq [keyword "switch",
    within (fun _ => .switchHeader) (seq [initializer, opt (role "value" expression)]),
    clauses (node "expression_case" (seq [keyword "case", inside (role "value" expressionList),
      clauseStatements]))])

def communication : Phrase :=
  alt [
    node "send_statement" (seq [role "channel" expression, one "<-", role "value" expression]),
    node "receive_statement" (seq [opt assigned, role "right" expression])]

def selectStatement : Phrase :=
  node "select_statement" (seq [keyword "select",
    clauses (node "communication_case" (seq [keyword "case",
      inside (role "communication" communication), clauseStatements]))])

def constSpec : Phrase :=
  node "const_spec" (seq [commas (role "name" (anyName "identifier")),
    optOnLine (seq [opt (role "type" type), one "=", role "value" expressionList])])

def varSpec : Phrase :=
  let value := seq [one "=", role "value" expressionList]
  node "var_spec" (seq [
    role "name" (anyName "identifier"), many (seq [one ",", role "name" (anyName "identifier")]),
    alt [seq [role "type" type, optOnLine value], value]])

/-- Where brackets after a name can hold a length, they do. -/
def typeSpec : Phrase :=
  let named := role "name" (anyName "type_identifier")
  let parametrized := role "type_parameters" (rule .typeParameters)
  alt [
    node "type_alias" (seq [named, opt parametrized, one "=", role "type" type]),
    node "type_spec" (seq [named, role "type" type]),
    node "type_spec" (seq [named, parametrized, role "type" type])]

def labelName : Phrase := name "label_name" expressionWords

def optLabel : Phrase := optOnLine (anyName "label_name")

/-- A word that begins another kind of statement begins no expression. -/
def startsExpression : Phrase :=
  seq [notAhead (alt (statementWords.map keyword)),
    alt [when (!·.clause), notAhead (alt [keyword "case", keyword "default"])]]

def statement : Phrase :=
  alt [
    node "const_declaration" (seq [keyword "const", grouped constSpec]),
    node "type_declaration" (seq [keyword "type", grouped typeSpec]),
    node "var_declaration" (seq [keyword "var", alt [
      node "var_spec_list" (seq [one "(", many (seq [varSpec, ending]), one ")"]), varSpec]]),
    node "return_statement" (seq [keyword "return", optOnLine expressionList]),
    node "go_statement" (seq [keyword "go", expression]),
    node "defer_statement" (seq [keyword "defer", expression]),
    rule .ifStatement,
    forStatement,
    typeSwitchStatement,
    expressionSwitchStatement,
    selectStatement,
    node "fallthrough_statement" (keyword "fallthrough"),
    node "break_statement" (seq [keyword "break", optLabel]),
    node "continue_statement" (seq [keyword "continue", optLabel]),
    node "goto_statement" (seq [keyword "goto", anyName "label_name"]),
    rule .block,
    node "empty_statement" (one ";"),
    seq [startsExpression, alt [
      node "labeled_statement" (seq [role "label" labelName, onLine (one ":"), rule .statement]),
      rule .simple]]]

/-- A label that no statement follows stands only at the end of a list. -/
def lastLabel : Phrase :=
  seq [startsExpression, node "labeled_statement" (seq [role "label" labelName, onLine (one ":")]),
    ahead (alt [one "\x7d", keyword "case", keyword "default"])]

def statementList : Phrase :=
  let listElement := alt [lastLabel, rule .statement]
  node "statement_list" (seq [listElement, many (seq [ending, listElement]), opt ending])

/-! The top of a file -/

def importSpec : Phrase :=
  node "import_spec" (seq [
    opt (role "name" (alt [node "dot" (one "."), anyName "package_identifier"])),
    role "path" stringLiteral])

def importDeclaration : Phrase :=
  node "import_declaration" (seq [keyword "import", alt [
    node "import_spec_list" (seq [one "(",
      opt (seq [importSpec, many (seq [ending, importSpec]), opt ending]), one ")"]),
    importSpec]])

def signatureAndBody : Phrase :=
  seq [role "parameters" (rule .parameters), optOnLine resultType, optOnLine (role "body" (rule .block))]

def item : Phrase :=
  alt [
    node "package_clause" (seq [keyword "package", anyName "package_identifier"]),
    importDeclaration,
    node "function_declaration" (seq [keyword "func", role "name" (anyName "identifier"),
      opt (role "type_parameters" (rule .typeParameters)), signatureAndBody]),
    node "method_declaration" (seq [keyword "func", role "receiver" (rule .parameters),
      role "name" (anyName "field_identifier"), signatureAndBody]),
    seq [notAhead (alt [keyword "package", keyword "import"]), rule .statement]]

def grammar : Rule → Phrase
  | .item => item
  | .statement => statement
  | .statementList => statementList
  | .block =>
    node "block" (seq [one "\x7b", inBody (opt (rule .statementList)), one "\x7d"])
  | .simple => simpleStatement Mode.beforeSemicolon
  | .update => simpleStatement id
  | .ifStatement => ifStatement
  | .expression => operators .conjunction ["||"]
  | .conjunction => operators .comparison ["&&"]
  | .comparison => operators .sum ["==", "!=", "<", "<=", ">", ">="]
  | .sum => operators .product ["+", "-", "|", "^"]
  | .product => operators .unary ["*", "/", "%", "<<", ">>", "&", "&^"]
  | .unary => unary
  | .primary => chain (rule .operand) primaryLinks
  | .operand => operand
  | .type => alt [parenthesizedType, rule .simpleType]
  | .simpleType => simpleType
  | .typeName => alt [genericType, qualifiedType, typeIdentifier]
  | .typeArguments => typeArguments
  | .typeParameters => typeParameters
  | .parameters => parameters
  | .arguments => arguments
  | .literalValue => literalValue

end SliceGrowth.Go
