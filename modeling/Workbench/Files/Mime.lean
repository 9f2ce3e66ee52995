import Workbench.Text.Cut
import Workbench.Text.Upper

namespace Workbench.Mime

/-- The extension of the last segment of a path, in lower case; empty without a dot there. -/
def extension (path : String) : String :=
  if (Text.afterLast '/' path).toList.contains '.' then Text.asciiLower (Text.afterLast '.' path) else ""

def table : List (String × String) := [
  ("html", "text/html"), ("css", "text/css"), ("js", "application/javascript"),
  ("json", "application/json"), ("md", "text/plain"), ("txt", "text/plain"), ("log", "text/plain"),
  ("png", "image/png"), ("gif", "image/gif"), ("webp", "image/webp"), ("jpg", "image/jpeg"),
  ("jpeg", "image/jpeg")]

/-- The media type of a path by its extension. -/
def ofPath (path : String) : String :=
  ((table.find? fun entry => entry.1 = extension path).map Prod.snd).getD "application/octet-stream"

/-- Whether content of a media type is text. -/
def isText (mime : String) : Bool :=
  Text.leads "text/" mime || mime = "application/json" || mime = "application/javascript"

end Workbench.Mime
