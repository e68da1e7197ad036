/-!
Everything that can be wrong with a pattern. Reading goes from left to right and reports the first
fault it meets.
-/
namespace BeanRules.Pattern

inductive Fault where
  | tooNested
  | tooLarge
  | groupUnclosed
  | groupUnopened
  | groupQuestionEnds
  | lookAround
  | flagsEmpty
  | flagUnknown
  | flagTwice
  | flagNegatedTwice
  | flagNegationDangles
  | flagsEnd
  | nameMissing
  | nameInvalid
  | nameUnclosed
  | nameEmpty
  | nameTwice
  | repeatNothing
  | countNothing
  | countUnclosed
  | countMinUnclosed
  | countCommaUnclosed
  | countMaxUnclosed
  | countNotClosed
  | countReversed
  | decimalMissing
  | decimalTooLarge
  | escapeEnds
  | escapeUnknown
  | backreference
  | unicodeClass
  | boundaryEnds
  | boundaryUnclosed
  | boundaryUnknown
  | hexEnds
  | hexFixedDigit
  | hexFixedEnds
  | hexFixedInvalid
  | hexBraceDigit
  | hexBraceEnds
  | hexBraceEmpty
  | hexBraceInvalid
  | classUnclosed
  | classNegatedUnclosed
  | classDashUnclosed
  | classBracketUnclosed
  | classItemUnclosed
  | classNested
  | classIntersection
  | classDifference
  | classSymmetricDifference
  | classAssertion
  | classRangeSide
  | classRangeReversed
deriving DecidableEq

def Fault.message : Fault → String
  | tooNested => "pattern has too much nesting"
  | tooLarge => "compiled regex exceeded size limit"
  | groupUnclosed => "found open group without closing ')'"
  | groupUnopened => "found closing ')' without matching '('"
  | groupQuestionEnds => "expected closing ')', but got end of pattern"
  | lookAround => "look-around is not supported"
  | flagsEmpty => "empty flag directive '(?)' is not allowed"
  | flagUnknown => "unrecognized inline flag"
  | flagTwice => "duplicate inline flag is not allowed"
  | flagNegatedTwice => "inline flag negation cannot be repeated"
  | flagNegationDangles => "inline flags cannot end with negation directive"
  | flagsEnd => "expected ':' or ')' to end inline flags, but got end of pattern"
  | nameMissing => "expected capture group name, but got end of pattern"
  | nameInvalid => "invalid group name"
  | nameUnclosed => "expected end of capture group name, but got end of pattern"
  | nameEmpty => "empty capture group names are not allowed"
  | nameTwice => "duplicate capture group name"
  | repeatNothing => "uncounted repetition operator must be applied to a sub-expression"
  | countNothing => "counted repetition operator must be applied to a sub-expression"
  | countUnclosed => "found unclosed counted repetition operator"
  | countMinUnclosed => "found incomplete and unclosed counted repetition operator"
  | countCommaUnclosed => "found counted repetition operator with a comma that is unclosed"
  | countMaxUnclosed => "found counted repetition with min and max that is unclosed"
  | countNotClosed => "expected closing brace for counted repetition, but got something else"
  | countReversed => "found counted repetition with a min bigger than its max"
  | decimalMissing => "expected decimal number, but found no digits"
  | decimalTooLarge => "got invalid decimal number"
  | escapeEnds => "saw start of escape sequence, but saw end of pattern before it finished"
  | escapeUnknown => "unrecognized escape sequence"
  | backreference => "backreferences are not supported"
  | unicodeClass => "Unicode character classes are not supported"
  | boundaryEnds => "found start of special word boundary or repetition without an end"
  | boundaryUnclosed =>
    "special word boundary assertion is unclosed or has an invalid character"
  | boundaryUnknown => "special word boundary assertion is unrecognized"
  | hexEnds => "expected hexadecimal number, but saw end of pattern first"
  | hexFixedDigit => "expected fixed length hexadecimal number, but got non-hex digit"
  | hexFixedEnds => "expected fixed length hexadecimal number, but saw end of pattern first"
  | hexFixedInvalid => "got invalid fixed length hexadecimal number"
  | hexBraceDigit => "expected hexadecimal number in braces, but got non-hex digit"
  | hexBraceEnds => "expected hexadecimal number, but saw end of pattern before closing brace"
  | hexBraceEmpty => "expected hexadecimal number in braces, but got no digits"
  | hexBraceInvalid => "got invalid hexadecimal number in braces"
  | classUnclosed => "found unclosed character class"
  | classNegatedUnclosed => "negated character class has no closing bracket"
  | classDashUnclosed => "non-empty character class has no closing bracket after dash"
  | classBracketUnclosed =>
    "character class begins with literal ']' but has no closing bracket"
  | classItemUnclosed => "non-empty character class has no closing bracket"
  | classNested => "nested character classes are not supported"
  | classIntersection => "character class intersection is not supported"
  | classDifference => "character class difference is not supported"
  | classSymmetricDifference => "character class symmetric difference is not supported"
  | classAssertion => "invalid escape sequence in character class"
  | classRangeSide => "character class ranges must start and end with a single character"
  | classRangeReversed => "invalid range in character class"

end BeanRules.Pattern
