/-
This file holds the tags of servers, which are texts under names. They are kept in the order of
their names, so that equal tags are the same value however they were written.
-/

import DocumentDriver.Document.Basic

namespace DocumentDriver

/-- Tags in the order of their names. -/
structure TagSet where
  tags : List (String × String)
deriving DecidableEq, Repr, Inhabited

namespace TagSet

def empty : TagSet := ⟨[]⟩

/-- The tags with the given names, which are pairwise different, and texts. -/
def ofList (tags : List (String × String)) : TagSet :=
  ⟨tags.mergeSort fun left right => !(decide (right.1 < left.1))⟩

/-- The tags that a document holds, which are its entries with strings. -/
def ofDocument (document : Document) : TagSet :=
  ofList (document.filterMap fun (key, value) => value.string?.map (key, ·))

/-- The document that tags are written as. -/
def toDocument (set : TagSet) : Document := set.tags.map fun (name, text) => (name, .string text)

/-- The text of a tag. -/
def get? (set : TagSet) (name : String) : Option String := set.tags.lookup name

/-- Every tag of one set is a tag of the other. -/
def isIn (set other : TagSet) : Bool :=
  set.tags.all fun (name, text) => other.get? name == some text

end TagSet

end DocumentDriver
