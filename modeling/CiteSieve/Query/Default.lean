import CiteSieve.Query.Basic

/-!
# The starting query

The query that is used when none is given: remote user studies in immersive virtual reality.
-/

namespace CiteSieve.Query

/-- What is studied. -/
def subjectBlock : Block where
  name := "Group 1"
  terms := ["immersive virtual reality", "virtual reality"]

/-- That participants take part from elsewhere. -/
def remoteBlock : Block where
  name := "Group 2"
  terms := ["remote experiment", "remote participation", "remote study", "remote VR",
    "online study", "home\\w*", "participant[-\\s]?owned HMD", "participant[-\\s]?provided HMD",
    "self[-\\s]?administered", "unsupervised", "participant[-\\s]?led", "self[-\\s]?conducted",
    "web[-\\s]?based", "crowdsourc\\w*", "prolific", "amazon mechanical turk", "MTurk",
    "out[-\\s]?of[-\\s]?lab", "outside the lab", "decentralized"]
  isRegex := true

/-- That it is a study with participants. -/
def studyBlock : Block where
  name := "Group 3"
  terms := ["user", "online", "study", "experiment", "behavior", "cognition", "evaluation",
    "empirical", "perception", "participant", "controlled", "task performance",
    "human[-\\s]?subject", "data collection"]
  isRegex := true

/-- The query that is used when none is given. -/
def starter : Query where
  blocks := [subjectBlock, remoteBlock, studyBlock]
  operators := [.and, .and]

end CiteSieve.Query
