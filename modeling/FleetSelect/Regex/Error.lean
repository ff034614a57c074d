namespace FleetSelect.Regex

inductive Error where
  | unexpectedEnd
  | unclosedGroup
  | unopenedGroup
  | unclosedClass
  | invalidClassRange
  | invalidClassEscape
  | unrecognizedEscape
  | backreference
  | invalidHexadecimal
  | missingRepetition
  | invalidCount
  | invalidFlags
  | invalidGroupName
  | lookAround
  | invalidBoundary
  /-- A class, a dot or a literal could match a part of a character. -/
  | invalidUtf8
  | unicodeNotAllowed
  | unknownProperty
  | tooDeep
  | tooLarge
deriving DecidableEq

def Error.message : Error → String
  | .unexpectedEnd => "the expression ends too early"
  | .unclosedGroup => "unclosed group"
  | .unopenedGroup => "unopened group"
  | .unclosedClass => "unclosed character class"
  | .invalidClassRange => "invalid character class range"
  | .invalidClassEscape => "invalid escape in a character class"
  | .unrecognizedEscape => "unrecognized escape"
  | .backreference => "backreferences are not supported"
  | .invalidHexadecimal => "invalid hexadecimal character"
  | .missingRepetition => "a repetition has nothing to repeat"
  | .invalidCount => "invalid count of a repetition"
  | .invalidFlags => "invalid flags"
  | .invalidGroupName => "invalid name of a group"
  | .lookAround => "look-around is not supported"
  | .invalidBoundary => "invalid word boundary"
  | .invalidUtf8 => "the expression can match a part of a character"
  | .unicodeNotAllowed => "Unicode is not allowed here"
  | .unknownProperty => "unknown Unicode property"
  | .tooDeep => "the expression is nested too deeply"
  | .tooLarge => "the compiled expression is too large"

end FleetSelect.Regex
