import StoryEngine.Text.Case

namespace StoryEngine

/-- What the services take from the JavaScript runtime: letter case, the URL
parser, the password hash of Node's `crypto`, and the deployment's address. -/
structure Platform where
  cases : CaseMapping
  /-- `process.env.APP_URL`, or the local default. -/
  appUrl : Text
  /-- `new URL(url).hostname`, or `none` when the constructor throws. -/
  urlHostname : Text → Option Text
  hashPagePassword : Text → Text
  /-- PBKDF2 verification of a stored value with the hash marker. -/
  verifyHashedPassword : Text → Text → Bool

namespace Platform

def hashPrefix : Text := ("pbkdf2_sha256$" : String)

def verifyPagePassword (platform : Platform) (password storedValue : Text) : Bool :=
  if Text.startsWith storedValue hashPrefix then
    platform.verifyHashedPassword password storedValue
  else password == storedValue

def ascii : Platform where
  cases := .ascii
  appUrl := ("http://localhost:3000" : String)
  urlHostname _ := none
  hashPagePassword password := hashPrefix ++ password
  verifyHashedPassword password storedValue := hashPrefix ++ password == storedValue

end Platform

end StoryEngine
