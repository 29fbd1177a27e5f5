import PhraseStructure.Compressed.Gzip

/-!
# Stored files

A file whose name ends in `.gz` is compressed; any other file holds its content as it is.
-/

namespace PhraseStructure.Command

/-- The ending of the names of compressed files. -/
def compressedEnding : String := ".gz"

def isCompressed (name : String) : Bool := compressedEnding.toList.isSuffixOf name.toList

/-- The content of a file, if its bytes are what its name promises. -/
def content? (name : String) (bytes : List UInt8) : Option (List UInt8) :=
  if isCompressed name then Compressed.Gzip.decompress? bytes else some bytes

end PhraseStructure.Command
