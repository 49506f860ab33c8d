import MakeHost.Library.Strings

/-!
# The functions that the string library exports

One constructor per exported function, with its contract and what a call of it gives.
-/

namespace MakeHost

/-- A function of the string library. -/
inductive StringFunction
  | strcmp | strlen | strcount | strstartswith | strendswith | strindex | strrindex
  | strisalnum | strisalpha | strisdigit | strisspace | strislower | strisupper
  | strisidentifier | strisprintable | stristitle
  | strlower | strupper | strcapitalize | strswapcase | strtitle
  | strcenter | strljust | strrjust | strlstrip | strrstrip | strexpandtabs
  | strjoin | strsplit | strrsplit | strtranslate
deriving DecidableEq

namespace StringFunction

/-- All functions, in the order in which they are exported. -/
def all : List StringFunction :=
  [strcmp, strlen, strcount, strstartswith, strendswith, strindex, strrindex,
    strisalnum, strisalpha, strisdigit, strisspace, strislower, strisupper,
    strisidentifier, strisprintable, stristitle,
    strlower, strupper, strcapitalize, strswapcase, strtitle,
    strcenter, strljust, strrjust, strlstrip, strrstrip, strexpandtabs,
    strjoin, strsplit, strrsplit, strtranslate]

/-- A text and a thing to find in it, with an optional window. -/
def windowed : Signature := [.required, .required, .optional, .optional]

/-- The contract of each function. -/
def contract : StringFunction → Contract
  | strcmp => .plain "strcmp" [.required, .required]
  | strlen => .plain "strlen" [.required]
  | strcount => .plain "strcount" windowed
  | strstartswith => .plain "strstartswith" windowed
  | strendswith => .plain "strendswith" windowed
  | strindex => .plain "strindex" windowed
  | strrindex => .plain "strrindex" windowed
  | strisalnum => .plain "strisalnum" [.required]
  | strisalpha => .plain "strisalpha" [.required]
  | strisdigit => .plain "strisdigit" [.required]
  | strisspace => .plain "strisspace" [.required]
  | strislower => .plain "strislower" [.required]
  | strisupper => .plain "strisupper" [.required]
  | strisidentifier => .plain "strisidentifier" [.required]
  | strisprintable => .plain "strisprintable" [.required]
  | stristitle => .plain "stristitle" [.required]
  | strlower => .plain "strlower" [.required]
  | strupper => .plain "strupper" [.required]
  | strcapitalize => .plain "strcapitalize" [.required]
  | strswapcase => .plain "strswapcase" [.required]
  | strtitle => .plain "strtitle" [.required]
  | strcenter => .plain "strcenter" [.required, .required, .optional]
  | strljust => .plain "strljust" [.required, .required, .optional]
  | strrjust => .plain "strrjust" [.required, .required, .optional]
  | strlstrip => .plain "strlstrip" [.required, .optional]
  | strrstrip => .plain "strrstrip" [.required, .optional]
  | strexpandtabs => .plain "strexpandtabs" [.required, .optional]
  | strjoin => .plain "strjoin" [.required, .required]
  | strsplit => .plain "strsplit" [.required, .optional, .optional]
  | strrsplit => .plain "strrsplit" [.required, .optional, .optional]
  | strtranslate => .plain "strtranslate" [.required, .required, .required]

/-- The result of a call with decoded arguments. -/
def call (f : StringFunction) (args : Arguments) : Except Failure Value :=
  let s := args.required 0
  let second := args.required 1
  let opt := args.optional
  match f with
  | strcmp => .ok (.text (Strings.compare s second))
  | strlen => .ok (.ofNat s.length)
  | strcount => .ofNat <$> Strings.count s second (opt 2) (opt 3)
  | strstartswith => .flag <$> Strings.startsWith s second (opt 2) (opt 3)
  | strendswith => .flag <$> Strings.endsWith s second (opt 2) (opt 3)
  | strindex => .ofNat <$> Strings.index s second (opt 2) (opt 3)
  | strrindex => .ofNat <$> Strings.lastIndex s second (opt 2) (opt 3)
  | strisalnum => .ok (.flag (Strings.allChars Text.isAlphanumeric s))
  | strisalpha => .ok (.flag (Strings.allChars Text.isLetter s))
  | strisdigit => .ok (.flag (Strings.allChars Text.isNumeral s))
  | strisspace => .ok (.flag (Strings.allChars Text.isBlank s))
  | strislower => .ok (.flag (Strings.isLowerText s))
  | strisupper => .ok (.flag (Strings.isUpperText s))
  | strisidentifier => .ok (.flag (Strings.isIdentifier s))
  | strisprintable => .ok (.flag (Strings.isPrintable s))
  | stristitle => .ok (.flag (Strings.isTitle s))
  | strlower => .ok (.text s.lower)
  | strupper => .ok (.text s.upper)
  | strcapitalize => .ok (.text (Strings.capitalize s))
  | strswapcase => .ok (.text (Strings.swapCase s))
  | strtitle => .ok (.text (Strings.title s))
  | strcenter => .text <$> Strings.center s second (opt 2)
  | strljust => .text <$> Strings.leftJustify s second (opt 2)
  | strrjust => .text <$> Strings.rightJustify s second (opt 2)
  | strlstrip => .ok (.text (Strings.stripStart s (opt 1)))
  | strrstrip => .ok (.text (Strings.stripEnd s (opt 1)))
  | strexpandtabs => .text <$> Strings.expandTabs s (opt 1)
  | strjoin => .ok (.text (Strings.joinWords s second))
  | strsplit => .text <$> Strings.split s (opt 1) (opt 2)
  | strrsplit => .text <$> Strings.splitLast s (opt 1) (opt 2)
  | strtranslate => .ok (.text (Strings.replaceChars s second (args.required 2)))

end StringFunction

end MakeHost
