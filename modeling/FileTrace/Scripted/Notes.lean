import FileTrace.Journal

namespace FileTrace.Scripted

def note? : Entry → Option String
  | .object (.opening request _) =>
    some ("open " ++ request.path ++ " btf=" ++ request.btf.getD "none" ++ " verbose=" ++
      toString request.verbose)
  | .object (.load _ program (.ok ())) => some ("load " ++ program)
  | .object (.attach _ program point (.ok link)) =>
    some ("attach " ++ program ++ " to " ++ point.display ++ " as link " ++ toString link)
  | .object (.detach _ program link _) =>
    some ("detach " ++ program ++ " link " ++ toString link)
  | .object (.release _) => some "release object"
  | .ring (.opening cpu pages none) =>
    some ("open ring " ++ cpu.display ++ " pages=" ++ toString pages)
  | .ring (.read cpu batch) =>
    some ("read " ++ cpu.display ++ " read=" ++ toString batch.samples.length ++ " lost=" ++
      toString batch.lost)
  | .ring (.release cpu) => some ("release ring " ++ cpu.display)
  | _ => none

end FileTrace.Scripted
