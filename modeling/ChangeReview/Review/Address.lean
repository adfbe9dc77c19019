import ChangeReview.Review

/-!
# Where a review is posted

The pull request that a review is posted to, and the addresses of the two calls.

## Main definitions

- `Review.Address`: a pull request on a hosting service.
- `Review.Poster.unreachable`: the answers when the hosting service cannot be reached.
-/

namespace ChangeReview.Review

/-- A pull request on a hosting service. -/
structure Address where
  /-- The address of the hosting service. -/
  apiUrl : Text
  /-- The owner and name of the repository. -/
  repo : Text
  /-- The number of the pull request. -/
  pr : Nat
  /-- What allows posting. -/
  token : Text
  deriving DecidableEq, Repr

namespace Address

/-- The address of the repository. -/
def repoUrl (address : Address) : Text :=
  Text.concat [Text.trimEndBy (· == '/') address.apiUrl, "/repos/", address.repo]

/-- Where reviews are posted. -/
def reviewsUrl (address : Address) : Text :=
  Text.concat [address.repoUrl, "/pulls/", Text.ofNat address.pr, "/reviews"]

/-- Where comments are posted. -/
def commentsUrl (address : Address) : Text :=
  Text.concat [address.repoUrl, "/issues/", Text.ofNat address.pr, "/comments"]

end Address

/-- The answers when the hosting service cannot be reached. -/
def Poster.unreachable (address : Address) : Poster :=
  { postReview := fun _ _ => .error (.review ("Failed to connect to " ++ address.reviewsUrl))
    postComment := fun _ => .error (.review ("Failed to connect to " ++ address.commentsUrl)) }

end ChangeReview.Review
