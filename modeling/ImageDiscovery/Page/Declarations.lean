import ImageDiscovery.Declaration
import ImageDiscovery.Html.Reader
import ImageDiscovery.Html.Reference
import ImageDiscovery.Text.Encoding

/-!
# Declarations of a page

A page is UTF-8, and bytes that are not count as unreadable characters.  Its declarations are those
of its meta elements that are declarations, in their order.  A page that is given as text is read by
its UTF-8 form.
-/

namespace ImageDiscovery

namespace Page

/-- The value of an attribute with its references resolved; nothing if the attribute is not there. -/
def attributeText (tag : Html.Tag) (name : String) : Text :=
  match tag.attribute? name.toList with
  | some value => Text.ofChars (Html.decodeReferences value)
  | none => []

def declaration? (tag : Html.Tag) : Option Declaration :=
  Declaration.ofMeta? (attributeText tag "name") (attributeText tag "content")

def declarationsOf (characters : List Char) : List Declaration :=
  (Html.metas characters).filterMap declaration?

def declarations (body : Bytes) : List Declaration := declarationsOf (Utf8.decodeBytewise body)

/-- The declarations of a page given as text, if that has a UTF-8 form. -/
def declarationsOfText (page : Text) : Except Unencodable (List Declaration) :=
  match page.notUtf8 with
  | some problem => .error problem
  | none => .ok (declarations page.utf8)

end Page

end ImageDiscovery
