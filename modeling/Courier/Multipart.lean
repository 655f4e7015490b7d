import Courier.Tunnel.Message
/-!
Bodies in several parts: one part for each field, in order of their names, then one for each file.  A
part is a header block, a blank line and its content; a line with the boundary stands before each part,
and a closing one after the last.  Here are `encode_multipart` and `escape_quoted`.
-/
namespace Courier.Multipart

def newline : Bytes := [0x0D, 0x0A]

/-- Content type of files that name none. -/
def unnamedType : String := "application/octet-stream"

/-- Inside quotes, quotes and backslashes are escaped and ends of line become blanks. -/
def escapeChar (c : Char) : List Char :=
  if c == '\\' || c == '"' then ['\\', c]
  else if c == '\r' || c == '\n' then [' ']
  else [c]

def escape (s : String) : String := String.ofList (s.toList.flatMap escapeChar)

def delimiter (boundary : String) : Bytes := Text.utf8 ("--" ++ boundary) ++ newline

def closing (boundary : String) : Bytes := Text.utf8 ("--" ++ boundary ++ "--") ++ newline

def nameHeader (name : String) : Bytes :=
  Text.utf8 ("Content-Disposition: form-data; name=\"" ++ escape name ++ "\"")

def fileHeader (field : String) (file : File) : Bytes :=
  nameHeader field ++ Text.utf8 ("; filename=\"" ++ escape file.name ++ "\"") ++ newline
    ++ Text.utf8 ("Content-Type: "
      ++ if file.contentType == "" then unnamedType else file.contentType)

def part (boundary : String) (header content : Bytes) : Bytes :=
  delimiter boundary ++ header ++ newline ++ newline ++ content ++ newline

def encode (boundary : String) (fields : Table String) (files : Table (List File)) : Bytes :=
  fields.flatMap (fun f => part boundary (nameHeader f.1) (Text.utf8 f.2))
    ++ files.flatMap (fun g => g.2.flatMap fun file =>
      part boundary (fileHeader g.1 file) file.content)
    ++ closing boundary

end Courier.Multipart
