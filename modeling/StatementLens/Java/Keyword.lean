/-!
# Words with a meaning

The words of Java that the grammar names. A word is not reserved everywhere: where the grammar has
no use for its meaning, it is a name like any other.
-/

namespace StatementLens.Java

/-- A word that the grammar names. -/
inductive Keyword where
  | abstract_
  | assert_
  | boolean_
  | break_
  | byte_
  | case_
  | catch_
  | char_
  | class_
  | continue_
  | default_
  | do_
  | double_
  | else_
  | enum_
  | exports_
  | extends_
  | false_
  | final_
  | finally_
  | float_
  | for_
  | if_
  | implements_
  | import_
  | instanceof_
  | int_
  | interface_
  | long_
  | module_
  | native_
  | new_
  | null_
  | open_
  | opens_
  | package_
  | permits_
  | private_
  | protected_
  | provides_
  | public_
  | record_
  | requires_
  | return_
  | sealed_
  | short_
  | static_
  | strictfp_
  | super_
  | switch_
  | synchronized_
  | this_
  | throw_
  | throws_
  | to_
  | transient_
  | transitive_
  | true_
  | try_
  | uses_
  | void_
  | volatile_
  | when_
  | while_
  | with_
  | yield_
  | underscore
  deriving DecidableEq, Repr

namespace Keyword

/-- The words and their spellings. -/
def spellings : List (List Char × Keyword) := [
  (['a', 'b', 's', 't', 'r', 'a', 'c', 't'], .abstract_),
  (['a', 's', 's', 'e', 'r', 't'], .assert_),
  (['b', 'o', 'o', 'l', 'e', 'a', 'n'], .boolean_),
  (['b', 'r', 'e', 'a', 'k'], .break_),
  (['b', 'y', 't', 'e'], .byte_),
  (['c', 'a', 's', 'e'], .case_),
  (['c', 'a', 't', 'c', 'h'], .catch_),
  (['c', 'h', 'a', 'r'], .char_),
  (['c', 'l', 'a', 's', 's'], .class_),
  (['c', 'o', 'n', 't', 'i', 'n', 'u', 'e'], .continue_),
  (['d', 'e', 'f', 'a', 'u', 'l', 't'], .default_),
  (['d', 'o'], .do_),
  (['d', 'o', 'u', 'b', 'l', 'e'], .double_),
  (['e', 'l', 's', 'e'], .else_),
  (['e', 'n', 'u', 'm'], .enum_),
  (['e', 'x', 'p', 'o', 'r', 't', 's'], .exports_),
  (['e', 'x', 't', 'e', 'n', 'd', 's'], .extends_),
  (['f', 'a', 'l', 's', 'e'], .false_),
  (['f', 'i', 'n', 'a', 'l'], .final_),
  (['f', 'i', 'n', 'a', 'l', 'l', 'y'], .finally_),
  (['f', 'l', 'o', 'a', 't'], .float_),
  (['f', 'o', 'r'], .for_),
  (['i', 'f'], .if_),
  (['i', 'm', 'p', 'l', 'e', 'm', 'e', 'n', 't', 's'], .implements_),
  (['i', 'm', 'p', 'o', 'r', 't'], .import_),
  (['i', 'n', 's', 't', 'a', 'n', 'c', 'e', 'o', 'f'], .instanceof_),
  (['i', 'n', 't'], .int_),
  (['i', 'n', 't', 'e', 'r', 'f', 'a', 'c', 'e'], .interface_),
  (['l', 'o', 'n', 'g'], .long_),
  (['m', 'o', 'd', 'u', 'l', 'e'], .module_),
  (['n', 'a', 't', 'i', 'v', 'e'], .native_),
  (['n', 'e', 'w'], .new_),
  (['n', 'u', 'l', 'l'], .null_),
  (['o', 'p', 'e', 'n'], .open_),
  (['o', 'p', 'e', 'n', 's'], .opens_),
  (['p', 'a', 'c', 'k', 'a', 'g', 'e'], .package_),
  (['p', 'e', 'r', 'm', 'i', 't', 's'], .permits_),
  (['p', 'r', 'i', 'v', 'a', 't', 'e'], .private_),
  (['p', 'r', 'o', 't', 'e', 'c', 't', 'e', 'd'], .protected_),
  (['p', 'r', 'o', 'v', 'i', 'd', 'e', 's'], .provides_),
  (['p', 'u', 'b', 'l', 'i', 'c'], .public_),
  (['r', 'e', 'c', 'o', 'r', 'd'], .record_),
  (['r', 'e', 'q', 'u', 'i', 'r', 'e', 's'], .requires_),
  (['r', 'e', 't', 'u', 'r', 'n'], .return_),
  (['s', 'e', 'a', 'l', 'e', 'd'], .sealed_),
  (['s', 'h', 'o', 'r', 't'], .short_),
  (['s', 't', 'a', 't', 'i', 'c'], .static_),
  (['s', 't', 'r', 'i', 'c', 't', 'f', 'p'], .strictfp_),
  (['s', 'u', 'p', 'e', 'r'], .super_),
  (['s', 'w', 'i', 't', 'c', 'h'], .switch_),
  (['s', 'y', 'n', 'c', 'h', 'r', 'o', 'n', 'i', 'z', 'e', 'd'], .synchronized_),
  (['t', 'h', 'i', 's'], .this_),
  (['t', 'h', 'r', 'o', 'w'], .throw_),
  (['t', 'h', 'r', 'o', 'w', 's'], .throws_),
  (['t', 'o'], .to_),
  (['t', 'r', 'a', 'n', 's', 'i', 'e', 'n', 't'], .transient_),
  (['t', 'r', 'a', 'n', 's', 'i', 't', 'i', 'v', 'e'], .transitive_),
  (['t', 'r', 'u', 'e'], .true_),
  (['t', 'r', 'y'], .try_),
  (['u', 's', 'e', 's'], .uses_),
  (['v', 'o', 'i', 'd'], .void_),
  (['v', 'o', 'l', 'a', 't', 'i', 'l', 'e'], .volatile_),
  (['w', 'h', 'e', 'n'], .when_),
  (['w', 'h', 'i', 'l', 'e'], .while_),
  (['w', 'i', 't', 'h'], .with_),
  (['y', 'i', 'e', 'l', 'd'], .yield_),
  (['_'], .underscore)]

/-- The keyword with a spelling. -/
def ofChars? (cs : List Char) : Option Keyword := spellings.lookup cs

/-- The words that may stand in front of a declaration. -/
def modifiers : List Keyword :=
  [.public_, .protected_, .private_, .abstract_, .static_, .final_, .strictfp_, .default_,
    .synchronized_, .native_, .transient_, .volatile_]

/-- The types that are words. -/
def basicTypes : List Keyword :=
  [.void_, .byte_, .short_, .int_, .long_, .char_, .float_, .double_, .boolean_]

/-- The words that begin or are an expression, besides the types. -/
def expressionWords : List Keyword := [.true_, .false_, .null_, .new_, .super_, .switch_, .this_]

/-- The words that begin a declaration inside a type, besides types and the word for records. -/
def memberWords : List Keyword := modifiers ++ [.class_, .interface_, .enum_]

/-- The words that begin a statement, besides types and the words that are names elsewhere. -/
def statementWords : List Keyword :=
  memberWords ++ expressionWords ++ [.assert_, .break_, .continue_, .do_, .for_, .if_, .import_,
    .package_, .return_, .throw_, .try_, .while_]

end Keyword

end StatementLens.Java
