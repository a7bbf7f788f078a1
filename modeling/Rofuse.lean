import Rofuse.Proto.Bytes
import Rofuse.Proto.Types
import Rofuse.Errors
import Rofuse.Types
import Rofuse.Encode
import Rofuse.Dirent
import Rofuse.Connection
import Rofuse.Filesystem
import Rofuse.Handlers
import Rofuse.Server
import Rofuse.BufferPool
import Rofuse.Shutdown
import Rofuse.Sharing.Handoff
import Rofuse.Sharing.Coordinator
import Rofuse.Mode
import Rofuse.Replies
import Rofuse.Init
import Rofuse.Forget
import Rofuse.Sharing.Clone
import Rofuse.Session
import Rofuse.Mount
import Rofuse.Kernel
import Rofuse.Paging
import Rofuse.MountDescriptors
