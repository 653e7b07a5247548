import TestSkeleton.Proofs.Message.Cache
import TestSkeleton.Proofs.Message.Packaged

/-!
# Lookups of packaged templates

What a catalog finds that has no templates besides the packaged ones. Once a lookup has read the
tables that it needs, later ones do not depend on the disk any more.
-/

namespace TestSkeleton

namespace Catalog

/-- The language that a message is looked up in first. -/
def requested (language : Option String) : String := firstGiven defaultLanguage [none, language]

variable {disk : Disk} {language key template : String} {rest : List String} {c c' : Catalog}
  {t : Templates}

end Catalog
end TestSkeleton
