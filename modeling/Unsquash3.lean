import Unsquash3.Format.Packing
import Unsquash3.Format.Records
import Unsquash3.Io.Stream
import Unsquash3.Tables.Super
import Unsquash3.Tables.ReadSuper
import Unsquash3.Tables.Fragment
import Unsquash3.Tables.Load
import Unsquash3.Tables.Regions
import Unsquash3.Tables.FragmentSpec
import Unsquash3.Inode.Read
import Unsquash3.Inode.Spec
import Unsquash3.Inode.Files
import Unsquash3.Dir.Open
import Unsquash3.Dir.Walk
import Unsquash3.Dir.RoundTrip
import Unsquash3.Dir.Names
import Unsquash3.Tables.Buffers
