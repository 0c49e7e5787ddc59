/-!
# Texts that write no value

The causes for which the text of a frequency, a channel spacing or a port number is refused. Each
keeps the text as it was given.
-/

namespace Lightpath

/-- Why a text is refused. -/
inductive ParseError where
  | invalidFrequency (text : String)
  | invalidChannelSpacing (text : String)
  | invalidPortNumber (text : String)
deriving DecidableEq, Repr

/-- The wording of the cause. -/
def ParseError.message : ParseError → String
  | .invalidFrequency text => "invalid frequency: " ++ text
  | .invalidChannelSpacing text => "invalid channel spacing: " ++ text
  | .invalidPortNumber text => "invalid port number: " ++ text

end Lightpath
