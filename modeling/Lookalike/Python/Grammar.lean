import Lookalike.Grammar.Rule

/-!
# The grammar of Python sources

The phrases of Python, from modules down to string pieces, and the rule of each. The grammar is
generous: it takes the statements of the second and of the third major version, names that are
only reserved in some places, and blocks that are empty.

Operators are not layered by how tightly they bind, since only the words of a text are wanted
and not its tree.

## Main definitions

* `Terminal` — what the scanner can deliver.
* `Phrase` — the phrases.
* `rules` — the grammar.
* `table` — the grammar, compiled.
-/

namespace Lookalike.Python

open Grammar (Rule)

inductive Terminal where
  | newline
  | indent
  | dedent
  | stringStart
  | stringText
  | escapedBrace
  | stringEnd
  | escape
  | backslash
  /-- A conversion such as `!r` in a replacement field. -/
  | conversion
  /-- The text of a format after the colon of a replacement field. -/
  | formatText
  | identifier
  | integer
  | float
  | endOfText
  | lit (text : String)
  deriving DecidableEq

inductive Phrase where
  | module | statement | simpleLine | simpleStatement | compoundStatement
  | importStatement | futureImport | fromImport | importList | importItem | dottedName
  | relativeModule
  | printRedirect | printList | assertStatement | expressionStatement | returnStatement
  | deleteStatement | raiseStatement | globalStatement | nonlocalStatement | execStatement
  | typeAlias
  | ifStatement | elifClause | elseClause | forStatement | asyncFor | whileStatement
  | tryStatement | exceptClause | exceptGroupClause | finallyClause | withStatement | asyncWith
  | functionDefinition | asyncFunction | classDefinition | decorated | decorator
  | matchStatement | matchBody | caseClause | suite | emptyBlock | block
  | parameters | parameter | lambdaParameters | lambdaParameter | splatPattern
  | doubleSplatPattern | typeParameters | type | combinedType | genericType
  | casePattern | simplePattern | closedPattern | number
  | pattern | tuplePattern | listPattern | targets
  | expressions | expression | unconditional | unit | comparison | arithmetic | factor
  | awaited | trailer | member | subscript | subscriptItem | slice | call | atom | name
  | arguments | argument | splat | doubleSplat | parenthesizedSplat
  | assignment | augmentedAssignment | rightHandSide | yield
  | lambda | namedExpression | collection | tuple | list | set | dictionary | pair
  | parenthesized | listComprehension | setComprehension | dictionaryComprehension | generator
  | comprehensionClauses | forClause | asyncForClause | ifClause
  | string | stringPiece | replacementField | formatSpecification

abbrev Rhs := Rule Terminal Phrase

instance : Coe String Rhs := ⟨fun s => .terminal (.lit s)⟩

instance : Coe Terminal Rhs := ⟨.terminal⟩

instance : Coe Phrase Rhs := ⟨.phrase⟩

def sequence (rs : List Rhs) : Rhs := Rule.all rs

def choice (rs : List Rhs) : Rhs := Rule.oneOf rs

def optional (r : Rhs) : Rhs := Rule.optional r

def many (r : Rhs) : Rhs := Rule.many r

def many1 (r : Rhs) : Rhs := Rule.repeated r

def commas (r : Rhs) : Rhs := Rule.separated r ","

/-- A rule once or more, with commas between and perhaps one at the end. -/
def commasOpen (r : Rhs) : Rhs := sequence [commas r, optional ","]

section Rules

open Phrase Terminal

def simpleRules : List (Phrase × Rhs) := [
  (module, sequence [many statement, endOfText]),
  (statement, choice [simpleLine, compoundStatement]),
  (simpleLine, sequence [Rule.separated simpleStatement ";", optional ";", newline]),
  (simpleStatement, choice [futureImport, importStatement, fromImport, printRedirect, printList,
    assertStatement, expressionStatement, returnStatement, deleteStatement, raiseStatement,
    "pass", "break", "continue", globalStatement, nonlocalStatement, execStatement, typeAlias]),
  (importStatement, sequence ["import", importList]),
  (importList, commasOpen importItem),
  (importItem, sequence [dottedName, optional (sequence ["as", identifier])]),
  (dottedName, Rule.separated identifier "."),
  (futureImport, sequence ["from", "__future__", "import",
    choice [importList, sequence ["(", importList, ")"]]]),
  (fromImport, sequence ["from", choice [relativeModule, dottedName], "import",
    choice ["*", importList, sequence ["(", importList, ")"]]]),
  (relativeModule, sequence [many1 ".", optional dottedName]),
  (printRedirect, sequence ["print", ">>", expression, many (sequence [",", expression]),
    optional ","]),
  (printList, sequence ["print", commasOpen expression]),
  (assertStatement, sequence ["assert", commas expression]),
  (expressionStatement, choice [expressions, assignment, augmentedAssignment, yield]),
  (returnStatement, sequence ["return", optional expressions]),
  (deleteStatement, sequence ["del", expressions]),
  (raiseStatement, sequence ["raise", optional expressions,
    optional (sequence ["from", expression])]),
  (globalStatement, sequence ["global", commas identifier]),
  (nonlocalStatement, sequence ["nonlocal", commas identifier]),
  (execStatement, sequence ["exec", choice [string, identifier],
    optional (sequence ["in", commas expression])]),
  (typeAlias, sequence ["type", type, "=", type]),
  (assignment, sequence [targets, choice [sequence ["=", rightHandSide],
    sequence [":", type, optional (sequence ["=", rightHandSide])]]]),
  (augmentedAssignment, sequence [targets, choice ["+=", "-=", "*=", "/=", "@=", "//=", "%=",
    "**=", ">>=", "<<=", "&=", "^=", "|="], rightHandSide]),
  (rightHandSide, choice [expressions, assignment, augmentedAssignment, yield]),
  (yield, sequence ["yield", choice [sequence ["from", expression], optional expressions]])]

def compoundRules : List (Phrase × Rhs) := [
  (compoundStatement, choice [ifStatement, forStatement, asyncFor, whileStatement, tryStatement,
    withStatement, asyncWith, functionDefinition, asyncFunction, classDefinition, decorated,
    matchStatement]),
  (ifStatement, sequence ["if", expression, ":", suite, many elifClause, optional elseClause]),
  (elifClause, sequence ["elif", expression, ":", suite]),
  (elseClause, sequence ["else", ":", suite]),
  (forStatement, sequence ["for", targets, "in", expressions, ":", suite, optional elseClause]),
  (asyncFor, sequence ["async", forStatement]),
  (whileStatement, sequence ["while", expression, ":", suite, optional elseClause]),
  (tryStatement, sequence ["try", ":", suite, choice [
    sequence [choice [many1 exceptClause, many1 exceptGroupClause], optional elseClause,
      optional finallyClause],
    finallyClause]]),
  (exceptClause, sequence ["except",
    optional (sequence [expression, optional (sequence [choice ["as", ","], expression])]),
    ":", suite]),
  (exceptGroupClause, sequence ["except*", expression, optional (sequence ["as", expression]),
    ":", suite]),
  (finallyClause, sequence ["finally", ":", suite]),
  (withStatement, sequence ["with", commasOpen expression, ":", suite]),
  (asyncWith, sequence ["async", withStatement]),
  (functionDefinition, sequence ["def", identifier, optional typeParameters, parameters,
    optional (sequence ["->", type]), ":", suite]),
  (asyncFunction, sequence ["async", functionDefinition]),
  (classDefinition, sequence ["class", identifier, optional typeParameters, optional arguments,
    ":", suite]),
  (decorated, sequence [many1 decorator,
    choice [classDefinition, functionDefinition, asyncFunction]]),
  (decorator, sequence ["@", expression, newline]),
  (matchStatement, sequence ["match", commasOpen expression, ":", matchBody]),
  (matchBody, choice [sequence [indent, many caseClause, dedent], emptyBlock]),
  (caseClause, sequence ["case", commasOpen casePattern,
    optional (sequence ["if", expression]), ":", suite]),
  (suite, choice [simpleLine, sequence [indent, block], emptyBlock]),
  (emptyBlock, newline),
  (block, sequence [many statement, dedent])]

def patternRules : List (Phrase × Rhs) := [
  (casePattern, choice [sequence [casePattern, "as", identifier],
    sequence [identifier, "=", simplePattern], simplePattern]),
  (simplePattern, Rule.separated closedPattern "|"),
  (closedPattern, choice [
    sequence [dottedName, "(", optional (commasOpen casePattern), ")"],
    sequence [choice ["*", "**"], choice [identifier, "_"]],
    sequence ["[", optional (commasOpen casePattern), "]"],
    sequence ["(", optional (commasOpen casePattern), ")"],
    sequence ["\x7b", optional (commasOpen (choice [
      sequence [simplePattern, ":", casePattern],
      sequence [choice ["*", "**"], choice [identifier, "_"]]])), "\x7d"],
    many1 string, "True", "False", "None",
    sequence [optional "-", number, optional (sequence [choice ["+", "-"], number])],
    dottedName, "_"]),
  (number, choice [integer, float]),
  (targets, commasOpen pattern),
  (pattern, choice [name, subscript, member, splatPattern, tuplePattern, listPattern]),
  (tuplePattern, sequence ["(", optional (commasOpen pattern), ")"]),
  (listPattern, sequence ["[", optional (commasOpen pattern), "]"]),
  (splatPattern, sequence ["*", choice [name, subscript, member]]),
  (doubleSplatPattern, sequence ["**", choice [name, subscript, member]]),
  (parameters, sequence ["(", optional (commasOpen parameter), ")"]),
  (parameter, choice [
    sequence [identifier, optional (sequence [":", type]), optional (sequence ["=", expression])],
    sequence [splatPattern, optional (sequence [":", type])],
    sequence [doubleSplatPattern, optional (sequence [":", type])],
    sequence [tuplePattern, optional (sequence ["=", expression])], "*", "/"]),
  (lambdaParameters, commasOpen lambdaParameter),
  (lambdaParameter, choice [
    sequence [choice [identifier, tuplePattern], optional (sequence ["=", expression])],
    splatPattern, doubleSplatPattern, "*", "/"]),
  (typeParameters, sequence ["[", commasOpen type, "]"]),
  (type, choice [expression, combinedType]),
  (combinedType, choice [sequence [choice ["*", "**"], identifier], genericType,
    sequence [combinedType, "|", type], sequence [type, ":", type],
    sequence [combinedType, ".", identifier]]),
  (genericType, sequence [choice [identifier, "type"], typeParameters])]

def expressionRules : List (Phrase × Rhs) := [
  (expressions, commasOpen expression),
  (expression, choice [unit,
    sequence [expression, choice ["and", "or", "as"], unit],
    sequence [expression, "if", expression, "else", unit]]),
  (unconditional, choice [unit, sequence [unconditional, choice ["and", "or", "as"], unit]]),
  (unit, choice [comparison, sequence ["not", unit], lambda, namedExpression]),
  (lambda, sequence ["lambda", optional lambdaParameters, ":", unit]),
  (namedExpression, sequence [name, ":=", unit]),
  (comparison, Rule.separated arithmetic (choice ["<", "<=", "==", "!=", ">=", ">", "<>", "in",
    sequence ["not", "in"], "is", sequence ["is", "not"]])),
  (arithmetic, Rule.separated factor (choice ["+", "-", "*", "@", "/", "%", "//", "**", "|", "&",
    "^", "<<", ">>"])),
  (factor, choice [sequence [choice ["+", "-", "~"], factor], awaited, trailer]),
  (awaited, sequence ["await", factor]),
  (trailer, choice [atom, member, subscript, call, splatPattern]),
  (member, sequence [trailer, ".", identifier]),
  (subscript, sequence [trailer, "[", commasOpen subscriptItem, "]"]),
  (subscriptItem, choice [expression, slice]),
  (slice, sequence [optional expression, ":", optional expression,
    optional (sequence [":", optional expression])]),
  (call, sequence [trailer, choice [generator, arguments]]),
  (arguments, sequence ["(", optional (commas argument), optional ",", ")"]),
  (argument, choice [expression, splat, doubleSplat, parenthesizedSplat,
    sequence [name, "=", expression]]),
  (splat, sequence ["*", expression]),
  (doubleSplat, sequence ["**", expression]),
  (parenthesizedSplat, sequence ["(", choice [parenthesizedSplat, splat], ")"]),
  (atom, choice [name, many1 string, integer, float, "True", "False", "None", "...", list,
    listComprehension, dictionary, dictionaryComprehension, set, setComprehension, tuple,
    parenthesized, generator]),
  (name, choice [identifier, "print", "exec", "async", "await", "type", "match"]),
  (collection, commasOpen (choice [expression, yield, splat, parenthesizedSplat])),
  (tuple, sequence ["(", optional collection, ")"]),
  (list, sequence ["[", optional collection, "]"]),
  (set, sequence ["\x7b", collection, "\x7d"]),
  (dictionary, sequence ["\x7b", optional (commas (choice [pair, doubleSplat])), optional ",",
    "\x7d"]),
  (pair, sequence [expression, ":", expression]),
  (parenthesized, sequence ["(", choice [expression, yield], ")"]),
  (listComprehension, sequence ["[", expression, comprehensionClauses, "]"]),
  (setComprehension, sequence ["\x7b", expression, comprehensionClauses, "\x7d"]),
  (dictionaryComprehension, sequence ["\x7b", pair, comprehensionClauses, "\x7d"]),
  (generator, sequence ["(", expression, comprehensionClauses, ")"]),
  (comprehensionClauses, sequence [choice [forClause, asyncForClause],
    many (choice [forClause, asyncForClause, ifClause])]),
  (forClause, sequence ["for", targets, "in", commasOpen unconditional]),
  (asyncForClause, sequence ["async", forClause]),
  (ifClause, sequence ["if", unconditional])]

def stringRules : List (Phrase × Rhs) := [
  (string, sequence [stringStart, many stringPiece, stringEnd]),
  (stringPiece, choice [replacementField, escapedBrace, escape, backslash, stringText]),
  (replacementField, sequence ["\x7b", choice [expressions, yield], optional "=",
    optional conversion, optional formatSpecification, "\x7d"]),
  (formatSpecification, sequence [":", many (choice [formatText, replacementField])])]

end Rules

def rules : List (Phrase × Rhs) :=
  simpleRules ++ compoundRules ++ patternRules ++ expressionRules ++ stringRules

def literals : Array String :=
  #["import", "as", "from", "__future__", "print", "assert", "return", "del", "raise", "pass",
    "break", "continue", "global", "nonlocal", "exec", "in", "type", "yield", "if", "elif", "else",
    "for", "async", "while", "try", "except", "finally", "with", "def", "class", "match", "case",
    "_", "True", "False", "None", "and", "or", "not", "is", "lambda", "await",
    "except*", "(", ")", "[", "]", "\x7b", "\x7d", ",", ";", ":", ".", "*", "**", "/", "@", "|",
    "=", "->", ">>", "+=", "-=", "*=", "/=", "@=", "//=", "%=", "**=", ">>=", "<<=", "&=", "^=",
    "|=", "<", "<=", "==", "!=", ">=", ">", "<>", "+", "-", "%", "//", "&", "^", "<<", "~", ":=",
    "..."]

def literalBase : Nat := 15

def Terminal.code : Terminal → Nat
  | .newline => 0
  | .indent => 1
  | .dedent => 2
  | .stringStart => 3
  | .stringText => 4
  | .escapedBrace => 5
  | .stringEnd => 6
  | .escape => 7
  | .backslash => 8
  | .conversion => 9
  | .formatText => 10
  | .identifier => 11
  | .integer => 12
  | .float => 13
  | .endOfText => 14
  | .lit text => literalBase + literals.findIdx (· == text)

def Phrase.code (p : Phrase) : Nat := p.ctorIdx

def phraseCount : Nat := Phrase.formatSpecification.code + 1

def table : Grammar.Table := Grammar.Table.compile phraseCount Terminal.code Phrase.code rules

/-- Phrases that claim the terminal after their first word whenever they can go on with it. -/
def binding (phrase : Nat) : Bool :=
  phrase == Phrase.printRedirect.code || phrase == Phrase.awaited.code ||
    phrase == Phrase.genericType.code

end Lookalike.Python
