import TaggedCatalog.CommandLine.ReportFormat
import TaggedCatalog.Terminal.Console

/-! # The command that shows the version -/

namespace TaggedCatalog.Version

def number : String := "0.1.0"

def bold : Style := { bold := some true }

def heading : Style := { bold := some true, underline := some true }

/-- The report, which has a heading if more messages are asked for. -/
def report (console : Console) (verbosity : Int) (format : Option ReportFormat) : Written :=
  if format = some .markdown then
    console.print "# CmdCatalog Version\n" ++
      console.print ("**CmdCatalog version: " ++ number ++ "**")
  else if verbosity > 0 then
    console.print (console.styled heading "CmdCatalog version:\n") ++
      console.print ("    " ++ console.styled bold number)
  else console.print (console.styled bold number)

end TaggedCatalog.Version
