import Diorama.Main
import Diorama.Proofs.Describing
import Diorama.Proofs.World.Blame
import Diorama.Proofs.World.Documents
import Diorama.Proofs.World.Setting
import Diorama.Proofs.World.References
import Diorama.Proofs.World.Edits
import Diorama.Proofs.World.Hooks
import Diorama.Proofs.World.Timers
import Diorama.Proofs.Curves
import Diorama.Proofs.Sliding
import Diorama.Proofs.Nulls
import Diorama.Proofs.Sharing
import Diorama.Proofs.Offstage
import Diorama.Proofs.Aim
import Diorama.Proofs.Strokes
import Diorama.Proofs.Requests
import Diorama.Proofs.Replacing
import Diorama.Proofs.Caches
import Diorama.Proofs.World.FairPlay
import Diorama.Proofs.World.Presses
import Diorama.Proofs.Coloring
import Diorama.Proofs.Wording
import Diorama.Proofs.Spelling
import Diorama.Proofs.Jukebox
