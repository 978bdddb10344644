import Sharding.Digest
import Sharding.Document.Block
import Sharding.Document.Folding
import Sharding.RuleFile.Check
import Sharding.RuleFile.Document

/-!
# Loading rule files

A rule file is read from a document in compact form and checked. Two files that say the same have
the same fingerprint, whatever they look like.
-/

set_option autoImplicit false

namespace Sharding.RuleFile

/-- The rule file that a document in a file stands for, once it is checked. -/
def load (document : Document) : Except Error RuleFile :=
  match document.fold?.bind (ofDocument? .loose) with
  | none => .error (.yaml "the document is no rule file")
  | some file =>
    match file.check with
    | .ok () => .ok file
    | .error fault => .error (.config (.ruleFile fault))

def blockText (file : RuleFile) : String :=
  file.toDocument.blockText

def fingerprint (file : RuleFile) : String :=
  Digest.ofText file.blockText

end Sharding.RuleFile
